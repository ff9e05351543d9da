import MbedBlocks.Proofs.AdvisoryInputs
import MbedBlocks.Proofs.DictLookup

/-!
# Entries of the registry

What is registered once stays registered, under its key, though perhaps with the text of a later
registration. A property that all registrations have is one of all entries.
-/

namespace MbedBlocks

def Registration.text : Registration → String
  | header _ text => text
  | function _ text => text
  | declaration _ text => text
  | setup _ text _ => text

namespace Keyed

variable {α : Type}

lemma nodup_keys (k : Keyed α) : (k.entries.map Prod.fst).Nodup := by
  refine List.pairwise_iff_getElem.mpr fun i j hi hj hlt hsame => ?_
  have hfirst := (k.indexed _ i).mpr (List.getElem?_eq_getElem hi)
  have hsecond := (k.indexed _ j).mpr (List.getElem?_eq_getElem hj)
  rw [hsame, hsecond] at hfirst
  exact Nat.ne_of_gt hlt (Option.some.inj hfirst)

lemma entry_of_position {k : Keyed α} {key : String} {i : Nat}
    (h : k.positions.get? key = some i) : ∃ value, k.entries[i]? = some (key, value) := by
  have hkey := (k.indexed key i).mp h
  rw [List.getElem?_map] at hkey
  obtain ⟨⟨key', value⟩, hentry, rfl⟩ := Option.map_eq_some_iff.mp hkey
  exact ⟨value, hentry⟩

lemma position_of_entry {k : Keyed α} {i : Nat} {entry : String × α}
    (h : k.entries[i]? = some entry) : k.positions.get? entry.1 = some i := by
  rw [k.indexed, List.getElem?_map, h]
  rfl

/-- The table finds what a search through the entries finds. -/
lemma get?_eq_lookup (k : Keyed α) (key : String) : k.get? key = k.entries.lookup key := by
  unfold get?
  cases hposition : k.positions.get? key with
  | none =>
    refine (List.lookup_eq_none_iff.mpr fun entry hentry => ?_).symm
    obtain ⟨i, hi⟩ := List.mem_iff_getElem?.mp hentry
    rw [bne_iff_ne]
    rintro rfl
    rw [position_of_entry hi] at hposition
    cases hposition
  | some i =>
    obtain ⟨value, hentry⟩ := entry_of_position hposition
    obtain ⟨before, after, hsplit⟩ := List.append_of_mem (List.mem_of_getElem? hentry)
    have hnodup := k.nodup_keys
    rw [Option.bind_some, hentry, eq_comm]
    refine List.lookup_eq_some_iff.mpr ⟨before, after, hsplit, fun entry hbefore => ?_⟩
    rw [hsplit, List.map_append, List.map_cons, List.nodup_append] at hnodup
    have hne := hnodup.2.2 entry.1 (List.mem_map_of_mem hbefore) key List.mem_cons_self
    exact bne_iff_ne.mpr hne.symm

lemma entries_put (k : Keyed α) (key : String) (value : α) :
    (k.put key value).entries =
      if (k.get? key).isSome then
        k.entries.map fun entry => if entry.1 == key then (key, value) else entry
      else k.entries ++ [(key, value)] := by
  unfold put
  split
  next i hposition =>
    obtain ⟨old, hentry⟩ := entry_of_position hposition
    have hget : (k.get? key).isSome := by simp [get?, hposition, hentry]
    rw [if_pos hget]
    apply List.ext_getElem?
    intro j
    rw [overwrite, List.getElem?_modify, List.getElem?_map]
    split_ifs with hij
    · subst hij
      simp [hentry]
    · -- The key has no second entry.
      cases hother : k.entries[j]? with
      | none => rfl
      | some entry =>
        have hne : entry.1 ≠ key := by
          rintro rfl
          rw [position_of_entry hother] at hposition
          exact hij (Option.some.inj hposition).symm
        simp [hne]
  next hposition =>
    have hget : ¬(k.get? key).isSome := by simp [get?, hposition]
    rw [if_neg hget, append]

/-- The entries determine the table. -/
lemma ext_entries {k k' : Keyed α} (h : k.entries = k'.entries) : k = k' := by
  have hpositions : k.positions = k'.positions := by
    apply Dict.ext_get?
    intro key
    refine Option.ext fun i => ?_
    rw [k.indexed, k'.indexed, h]
  cases k
  cases k'
  simp_all

lemma lookup_replace (entries : List (String × α)) (key key' : String) (value : α) :
    (entries.map fun entry => if entry.1 == key then (key, value) else entry).lookup key' =
      if key' = key then (entries.lookup key).map fun _ => value else entries.lookup key' := by
  induction entries with
  | nil => simp
  | cons entry entries ih =>
    obtain ⟨first, old⟩ := entry
    rw [List.map_cons, List.lookup_cons, List.lookup_cons, List.lookup_cons, ih]
    by_cases hfirst : first = key
    · subst hfirst
      by_cases hkey : key' = first
      · simp [hkey]
      · simp [hkey, beq_eq_false_iff_ne.mpr hkey]
    · have hold : (key == first) = false := beq_eq_false_iff_ne.mpr (Ne.symm hfirst)
      by_cases hkey : key' = key
      · simp [hkey, hfirst, hold]
      · simp [hkey, hfirst]

lemma get?_put (k : Keyed α) (key key' : String) (value : α) :
    (k.put key value).get? key' = if key' = key then some value else k.get? key' := by
  rw [get?_eq_lookup, entries_put]
  cases hold : k.get? key with
  | none =>
    rw [if_neg (by simp)]
    rw [get?_eq_lookup] at hold ⊢
    rw [List.lookup_append]
    by_cases hkey : key' = key
    · simp [hkey, hold]
    · simp [hkey, List.lookup_cons, beq_eq_false_iff_ne.mpr hkey]
  | some old =>
    rw [if_pos (by simp)]
    rw [get?_eq_lookup] at hold ⊢
    rw [lookup_replace, hold]
    rfl

lemma mem_entries_of_get? {k : Keyed α} {key : String} {value : α} (h : k.get? key = some value) :
    (key, value) ∈ k.entries := by
  rw [get?_eq_lookup] at h
  obtain ⟨before, after, hsplit, -⟩ := List.lookup_eq_some_iff.mp h
  rw [hsplit]
  simp

lemma mem_values_of_get? {k : Keyed α} {key : String} {value : α} (h : k.get? key = some value) :
    value ∈ k.values :=
  List.mem_map_of_mem (mem_entries_of_get? h)

lemma mem_entries_put {k : Keyed α} {key : String} {value : α} {entry : String × α}
    (h : entry ∈ (k.put key value).entries) : entry = (key, value) ∨ entry ∈ k.entries := by
  rw [entries_put] at h
  split_ifs at h
  · obtain ⟨old, hold, rfl⟩ := List.mem_map.mp h
    split_ifs
    · exact .inl rfl
    · exact .inr hold
  · rcases List.mem_append.mp h with h | h
    · exact .inr h
    · exact .inl (List.mem_singleton.mp h)

end Keyed

namespace Proofs

/-- Whether the registry has an entry under the key of a registration, in its section. -/
def Registered (r : Registry) : Registration → Prop
  | .header key _ => (r.includes.get? key).isSome
  | .function key _ => (r.functions.get? key).isSome
  | .declaration key _ => (r.declarations.get? key).isSome
  | .setup key _ _ => (r.setups.get? key).isSome

lemma registered_add_self (r : Registry) (x : Registration) : Registered (r.add x) x := by
  cases x <;> simp [Registered, Registry.add, Keyed.get?_put]

lemma Registered.put {α : Type} {k : Keyed α} {key : String} (h : (k.get? key).isSome)
    (key' : String) (value : α) : ((k.put key' value).get? key).isSome := by
  rw [Keyed.get?_put]
  split_ifs
  · rfl
  · exact h

lemma Registered.add {r : Registry} {x : Registration} (h : Registered r x) (y : Registration) :
    Registered (r.add y) x := by
  cases x <;> cases y <;> first | exact h | exact Registered.put h _ _

/-! What every registration keeps, all effects keep. -/

section Kept

variable {K : Registry → Prop} {r : Registry}

lemma addAll_of_add (hadd : ∀ r x, K r → K (r.add x)) (h : K r) (xs : List Registration) :
    K (r.addAll xs) := by
  unfold Registry.addAll
  induction xs generalizing r with
  | nil => exact h
  | cons x xs ih => exact ih (hadd r x h)

/-- Step: an effect makes some registrations or none. -/
lemma registryStep_of_add (hadd : ∀ r x, K r → K (r.add x)) (h : K r) (e : Effect) :
    K (registryStep r e) := by
  cases e with
  | register x => exact hadd r x h
  | unlessDefined function xs =>
    rw [registryStep]
    split_ifs
    · exact h
    · exact addAll_of_add hadd h xs
  | reserve pin request => exact h
  | warn w => exact h

lemma foldl_registryStep_of_add (hadd : ∀ r x, K r → K (r.add x)) (h : K r)
    (effects : List Effect) : K (effects.foldl registryStep r) := by
  induction effects generalizing r with
  | nil => exact h
  | cons e effects ih => exact ih (registryStep_of_add hadd h e)

end Kept

/-- No effect takes an entry away. -/
lemma Registered.foldl {r : Registry} {x : Registration} (h : Registered r x)
    (effects : List Effect) : Registered (effects.foldl registryStep r) x :=
  foldl_registryStep_of_add (K := (Registered · x)) (fun _ y hx => hx.add y) h effects

/-- Run: what some effect registers is registered in the end. -/
theorem registered_of_mem {x : Registration} {effects : List Effect} (h : .register x ∈ effects)
    (r : Registry) : Registered (effects.foldl registryStep r) x := by
  obtain ⟨before, after, rfl⟩ := List.append_of_mem h
  rw [List.foldl_append, List.foldl_cons]
  exact (registered_add_self _ x).foldl after

/-! ### Properties of all entries -/

variable {P : Registration → Prop}

/-- All registrations that an effect may make have the property. -/
def Grants (P : Registration → Prop) : Effect → Prop
  | .register x => P x
  | .unlessDefined _ xs => ∀ x ∈ xs, P x
  | .reserve _ _ => True
  | .warn _ => True

@[simp] lemma grants_register (x : Registration) : Grants P (.register x) ↔ P x := Iff.rfl

@[simp] lemma grants_unlessDefined (function : String) (xs : List Registration) :
    Grants P (.unlessDefined function xs) ↔ ∀ x ∈ xs, P x := Iff.rfl

/-- All entries have the property. -/
structure Holds (P : Registration → Prop) (r : Registry) : Prop where
  includes : ∀ entry ∈ r.includes.entries, P (.header entry.1 entry.2)
  functions : ∀ entry ∈ r.functions.entries, P (.function entry.1 entry.2)
  declarations : ∀ entry ∈ r.declarations.entries, P (.declaration entry.1 entry.2)
  setups : ∀ entry ∈ r.setups.entries, P (.setup entry.1 entry.2.text entry.2.runFirst)

lemma holds_empty : Holds P {} := ⟨by simp, by simp, by simp, by simp⟩

lemma Holds.add {r : Registry} (h : Holds P r) {x : Registration} (hx : P x) :
    Holds P (r.add x) := by
  cases x with
  | header key text =>
    refine { h with includes := fun entry hentry => ?_ }
    rcases Keyed.mem_entries_put hentry with rfl | hentry
    · exact hx
    · exact h.includes entry hentry
  | function key text =>
    refine { h with functions := fun entry hentry => ?_ }
    rcases Keyed.mem_entries_put hentry with rfl | hentry
    · exact hx
    · exact h.functions entry hentry
  | declaration key text =>
    refine { h with declarations := fun entry hentry => ?_ }
    rcases Keyed.mem_entries_put hentry with rfl | hentry
    · exact hx
    · exact h.declarations entry hentry
  | setup key text runFirst =>
    refine { h with setups := fun entry hentry => ?_ }
    rcases Keyed.mem_entries_put hentry with rfl | hentry
    · exact hx
    · exact h.setups entry hentry

lemma Holds.addAll {r : Registry} (h : Holds P r) {xs : List Registration} (hxs : ∀ x ∈ xs, P x) :
    Holds P (r.addAll xs) := by
  unfold Registry.addAll
  induction xs generalizing r with
  | nil => exact h
  | cons x xs ih =>
    exact ih (h.add (hxs x List.mem_cons_self)) fun y hy => hxs y (List.mem_cons_of_mem x hy)

lemma Holds.step {r : Registry} (h : Holds P r) {e : Effect} (he : Grants P e) :
    Holds P (registryStep r e) := by
  cases e with
  | register x => exact h.add he
  | unlessDefined function xs =>
    rw [registryStep]
    split_ifs
    · exact h
    · exact h.addAll he
  | reserve pin request => exact h
  | warn w => exact h

theorem Holds.foldl {r : Registry} (h : Holds P r) {effects : List Effect}
    (heffects : ∀ e ∈ effects, Grants P e) : Holds P (effects.foldl registryStep r) := by
  induction effects generalizing r with
  | nil => exact h
  | cons e effects ih =>
    have hstep := h.step (heffects e List.mem_cons_self)
    exact ih hstep fun e' he' => heffects e' (List.mem_cons_of_mem e he')

end Proofs

end MbedBlocks
