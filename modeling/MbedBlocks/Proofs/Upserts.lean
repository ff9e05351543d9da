import MbedBlocks.Proofs.RecordedWarnings
import MbedBlocks.Proofs.RegistryEntries

/-!
# Writing over

Warnings and the parts of a program are written under keys, the last write of a key in the place of
the first. Writes of one key replace each other, and writes of two keys can be exchanged once one of
them has its place. So a sequence of writes whose last ones are in force can be replayed without
any change, and every sequence is in that position once it has been run.
-/

namespace MbedBlocks

namespace Proofs

/-! ### Lists with keys -/

section Lists

variable {α κ : Type} [DecidableEq κ] (key : α → κ)

/-- Puts an element in the place of those with its key, or at the end if there are none. -/
def upsert (l : List α) (a : α) : List α :=
  if key a ∈ l.map key then l.map fun x => if key x = key a then a else x else l ++ [a]

variable {key} {l : List α} {a b : α}

lemma upsert_of_mem (h : key a ∈ l.map key) :
    upsert key l a = l.map fun x => if key x = key a then a else x := if_pos h

lemma upsert_of_not_mem (h : key a ∉ l.map key) : upsert key l a = l ++ [a] := if_neg h

lemma keys_replace (l : List α) (a : α) :
    (l.map fun x => if key x = key a then a else x).map key = l.map key := by
  rw [List.map_map]
  refine List.map_congr_left fun x _ => ?_
  rw [Function.comp_apply]
  split_ifs with h
  · exact h.symm
  · rfl

lemma replace_of_not_mem (h : key a ∉ l.map key) :
    (l.map fun x => if key x = key a then a else x) = l := by
  refine (List.map_congr_left fun x hx => if_neg fun heq => h ?_).trans (List.map_id' l)
  exact heq ▸ List.mem_map_of_mem hx

lemma keys_upsert : (upsert key l a).map key =
    if key a ∈ l.map key then l.map key else l.map key ++ [key a] := by
  unfold upsert
  split_ifs
  · exact keys_replace l a
  · rw [List.map_append, List.map_singleton]

lemma mem_keys_upsert {k : κ} : k ∈ (upsert key l a).map key ↔ k = key a ∨ k ∈ l.map key := by
  rw [keys_upsert]
  split_ifs with h
  · exact ⟨.inr, fun hk => hk.elim (fun hk => hk ▸ h) id⟩
  · rw [List.mem_append, List.mem_singleton, or_comm]

lemma upsert_upsert_of_eq (h : key a = key b) :
    upsert key (upsert key l a) b = upsert key l b := by
  have hb : key b ∈ (upsert key l a).map key := mem_keys_upsert.mpr (.inl h.symm)
  rw [upsert_of_mem hb]
  by_cases ha : key a ∈ l.map key
  · rw [upsert_of_mem ha, upsert_of_mem (h ▸ ha), List.map_map]
    refine List.map_congr_left fun x _ => ?_
    by_cases hx : key x = key b <;> simp [h, hx]
  · rw [upsert_of_not_mem ha, upsert_of_not_mem (h ▸ ha), List.map_append,
      replace_of_not_mem (h ▸ ha), List.map_singleton, if_pos h]

lemma upsert_comm (h : key a ≠ key b) (ha : key a ∈ l.map key) :
    upsert key (upsert key l a) b = upsert key (upsert key l b) a := by
  have ha' : key a ∈ (upsert key l b).map key := mem_keys_upsert.mpr (.inr ha)
  rw [upsert_of_mem ha', upsert_of_mem ha]
  by_cases hb : key b ∈ l.map key
  · have hb' : key b ∈ (l.map fun x => if key x = key a then a else x).map key := by
      rwa [keys_replace]
    rw [upsert_of_mem hb', upsert_of_mem hb, List.map_map, List.map_map]
    refine List.map_congr_left fun x _ => ?_
    by_cases hx : key x = key a
    · simp [hx, h]
    · by_cases hx' : key x = key b <;> simp [hx, hx', h.symm]
  · have hb' : key b ∉ (l.map fun x => if key x = key a then a else x).map key := by
      rwa [keys_replace]
    rw [upsert_of_not_mem hb', upsert_of_not_mem hb, List.map_append, List.map_singleton,
      if_neg h.symm]

lemma filter_key_replace (k : κ) :
    (l.map fun x => if key x = key a then a else x).filter (fun x => key x = k) =
      (l.filter fun x => key x = k).map fun x => if key x = key a then a else x := by
  rw [List.filter_map]
  refine congrArg _ (congrArg (List.filter · l) (funext fun x => ?_))
  rw [Function.comp_apply]
  split_ifs with hx
  · rw [hx]
  · rfl

lemma filter_upsert_of_ne {k : κ} (h : key a ≠ k) :
    (upsert key l a).filter (fun x => key x = k) = l.filter fun x => key x = k := by
  by_cases ha : key a ∈ l.map key
  · rw [upsert_of_mem ha, filter_key_replace, replace_of_not_mem]
    intro hmem
    obtain ⟨x, hx, hkey⟩ := List.mem_map.mp hmem
    exact h (hkey.symm.trans (of_decide_eq_true (List.mem_filter.mp hx).2))
  · rw [upsert_of_not_mem ha, List.filter_append]
    simp [h]

/-- If at most one element had the key, the new one alone has it. -/
lemma filter_upsert_self (h : (l.filter fun x => key x = key a).length ≤ 1) :
    (upsert key l a).filter (fun x => key x = key a) = [a] := by
  by_cases ha : key a ∈ l.map key
  · obtain ⟨x, hx, hkey⟩ := List.mem_map.mp ha
    have hmem : x ∈ l.filter fun x => key x = key a := List.mem_filter.mpr ⟨hx, by simp [hkey]⟩
    obtain ⟨y, hy⟩ := List.length_eq_one_iff.mp
      (Nat.le_antisymm h (List.length_pos_of_mem hmem))
    obtain rfl : x = y := List.mem_singleton.mp (hy ▸ hmem)
    rw [upsert_of_mem ha, filter_key_replace, hy, List.map_singleton, if_pos hkey]
  · have hnone : (l.filter fun x => key x = key a) = [] :=
      List.filter_eq_nil_iff.mpr fun x hx hkey =>
        ha (of_decide_eq_true hkey ▸ List.mem_map_of_mem hx)
    rw [upsert_of_not_mem ha, List.filter_append, hnone]
    simp

end Lists

/-! ### Sequences of writes -/

/-- States that are written to in slots. -/
structure Overwriting (σ α κ : Type) where
  write : σ → α → σ
  slot : α → κ
  Has : σ → κ → Prop
  has_write : ∀ {s a k}, Has (write s a) k ↔ k = slot a ∨ Has s k
  overwrite : ∀ {s a b}, slot a = slot b → write (write s a) b = write s b
  /-- A slot keeps its place, so a write to one that is there can wait for another. -/
  comm : ∀ {s a b}, slot a ≠ slot b → Has s (slot a) → write (write s a) b = write (write s b) a

namespace Overwriting

variable {σ α κ : Type} {W : Overwriting σ α κ} {s : σ} {a b : α} {as : List α}

/-- The write is in force already. -/
def Absorbs (W : Overwriting σ α κ) (s : σ) (a : α) : Prop := W.write s a = s

lemma absorbs_write_self : W.Absorbs (W.write s a) a := W.overwrite rfl

lemma Absorbs.has (h : W.Absorbs s a) : W.Has s (W.slot a) := by
  have hwritten : W.Has (W.write s a) (W.slot a) := W.has_write.mpr (.inl rfl)
  rwa [h] at hwritten

lemma Absorbs.write (h : W.Absorbs s a) (hne : W.slot b ≠ W.slot a) :
    W.Absorbs (W.write s b) a := by
  unfold Absorbs
  rw [← W.comm hne.symm h.has, h]

lemma Absorbs.foldl (h : W.Absorbs s a) (has : ∀ b ∈ as, W.slot b ≠ W.slot a) :
    W.Absorbs (as.foldl W.write s) a := by
  induction as generalizing s with
  | nil => exact h
  | cons b as ih =>
    have hnext := h.write (has b List.mem_cons_self)
    exact ih hnext fun c hc => has c (List.mem_cons_of_mem b hc)

/-- A write to a slot that is written to again need not be made. -/
lemma foldl_write_of_overwritten (hhas : W.Has s (W.slot a)) (h : ∃ b ∈ as, W.slot b = W.slot a) :
    as.foldl W.write (W.write s a) = as.foldl W.write s := by
  induction as generalizing s with
  | nil => simp at h
  | cons b as ih =>
    rw [List.foldl_cons, List.foldl_cons]
    by_cases hb : W.slot b = W.slot a
    · rw [W.overwrite hb.symm]
    · -- The write can wait until after `b`, so the one that replaces it comes nearer.
      have hrest : ∃ c ∈ as, W.slot c = W.slot a := by
        obtain ⟨c, hc, hslot⟩ := h
        refine ⟨c, (List.mem_cons.mp hc).resolve_left ?_, hslot⟩
        rintro rfl
        exact hb hslot
      rw [W.comm (Ne.symm hb) hhas]
      exact ih (W.has_write.mpr (.inr hhas)) hrest

/-- Every write of the sequence is in force or followed by another write to its slot. -/
def Settled (W : Overwriting σ α κ) (s : σ) : List α → Prop
  | [] => True
  | a :: as => ((∃ b ∈ as, W.slot b = W.slot a) ∨ W.Absorbs s a) ∧ W.Settled s as

lemma Settled.has (h : W.Settled s as) (ha : a ∈ as) : W.Has s (W.slot a) := by
  induction as generalizing a with
  | nil => cases ha
  | cons b as ih =>
    rcases List.mem_cons.mp ha with rfl | ha
    · rcases h.1 with ⟨c, hc, hslot⟩ | habsorbs
      · exact hslot ▸ ih h.2 hc
      · exact habsorbs.has
    · exact ih h.2 ha

/-- Where every last write is in force, the sequence changes nothing. -/
theorem Settled.replay (h : W.Settled s as) : as.foldl W.write s = s := by
  induction as with
  | nil => rfl
  | cons a as ih =>
    rw [List.foldl_cons]
    rcases h.1 with hover | habsorbs
    · rw [foldl_write_of_overwritten (h.has List.mem_cons_self) hover, ih h.2]
    · rw [habsorbs, ih h.2]

/-- After a sequence has been run, its last writes are in force. -/
theorem settled_foldl (s : σ) (as : List α) : W.Settled (as.foldl W.write s) as := by
  induction as generalizing s with
  | nil => trivial
  | cons a as ih =>
    refine ⟨?_, ih (W.write s a)⟩
    by_cases hover : ∃ b ∈ as, W.slot b = W.slot a
    · exact .inl hover
    · push Not at hover
      exact .inr (absorbs_write_self.foldl hover)

/-- Run twice, a sequence of writes does what it does once. -/
theorem foldl_write_twice (s : σ) (as : List α) :
    as.foldl W.write (as.foldl W.write s) = as.foldl W.write s :=
  (settled_foldl s as).replay

end Overwriting

/-! ### Warnings -/

lemma record_eq_upsert (warnings : List Warning) (w : Warning) :
    Context.record warnings w = upsert Warning.key warnings w := by
  have hany : (warnings.any fun v => v.blockId == w.blockId && v.tag == w.tag) = true ↔
      w.key ∈ warnings.map Warning.key := by
    simp only [List.any_eq_true, Context.sameKey_iff, List.mem_map]
  unfold Context.record upsert
  simp only [hany, Context.sameKey_iff]
  congr

/-- Warnings are written under their block and tag. -/
def recording : Overwriting (List Warning) Warning (String × String) where
  write := Context.record
  slot := Warning.key
  Has warnings key := key ∈ warnings.map Warning.key
  has_write := by
    intro warnings w key
    rw [record_eq_upsert]
    exact mem_keys_upsert
  overwrite := by
    intro warnings v w h
    simp only [record_eq_upsert]
    exact upsert_upsert_of_eq h
  comm := by
    intro warnings v w h hv
    simp only [record_eq_upsert]
    exact upsert_comm h hv

end Proofs

/-! ### Parts of a program -/

namespace Keyed

variable {α : Type}

lemma isSome_get?_iff {k : Keyed α} {key : String} :
    (k.get? key).isSome ↔ key ∈ k.entries.map Prod.fst := by
  rw [get?_eq_lookup]
  induction k.entries with
  | nil => simp
  | cons entry entries ih =>
    rw [List.lookup_cons, List.map_cons, List.mem_cons]
    cases h : key == entry.1 <;> simp_all

lemma entries_put_eq_upsert (k : Keyed α) (key : String) (value : α) :
    (k.put key value).entries = Proofs.upsert Prod.fst k.entries (key, value) := by
  rw [entries_put]
  by_cases h : (k.get? key).isSome
  · rw [if_pos h, Proofs.upsert_of_mem (isSome_get?_iff.mp h)]
    simp only [beq_iff_eq]
  · rw [if_neg h, Proofs.upsert_of_not_mem (mt isSome_get?_iff.mpr h)]

lemma isSome_get?_put {k : Keyed α} {key key' : String} {value : α} :
    ((k.put key' value).get? key).isSome ↔ key = key' ∨ (k.get? key).isSome := by
  rw [get?_put]
  split_ifs with h <;> simp [h]

lemma put_put (k : Keyed α) (key : String) (value value' : α) :
    (k.put key value).put key value' = k.put key value' := by
  apply ext_entries
  simp only [entries_put_eq_upsert, Proofs.upsert_upsert_of_eq]

lemma put_comm {k : Keyed α} {key key' : String} (h : key ≠ key') (hkey : (k.get? key).isSome)
    (value value' : α) :
    (k.put key value).put key' value' = (k.put key' value').put key value := by
  have hmem : (key, value).1 ∈ k.entries.map Prod.fst := isSome_get?_iff.mp hkey
  apply ext_entries
  simp only [entries_put_eq_upsert]
  exact Proofs.upsert_comm h hmem

end Keyed

namespace Registration

/-- Where registrations are written: a section and a key in it. -/
inductive Slot where
  | header (key : String)
  | function (key : String)
  | declaration (key : String)
  | setup (key : String)
deriving DecidableEq, Repr

def slot : Registration → Slot
  | header key _ => .header key
  | function key _ => .function key
  | declaration key _ => .declaration key
  | setup key _ _ => .setup key

end Registration

/-- Whether the registry has an entry in the slot. -/
def Registry.Has (r : Registry) : Registration.Slot → Prop
  | .header key => (r.includes.get? key).isSome
  | .function key => (r.functions.get? key).isSome
  | .declaration key => (r.declarations.get? key).isSome
  | .setup key => (r.setups.get? key).isSome

namespace Proofs

/-- Parts of a program are written in their slots. -/
def registering : Overwriting Registry Registration Registration.Slot where
  write := Registry.add
  slot := Registration.slot
  Has := Registry.Has
  has_write := by
    intro r x slot
    cases x <;> cases slot <;>
      simp [Registry.add, Registry.Has, Registration.slot, Keyed.isSome_get?_put]
  overwrite := by
    intro r x y h
    cases x <;> cases y <;> simp_all [Registration.slot, Registry.add, Keyed.put_put]
  comm := by
    intro r x y h hx
    -- Registrations in two sections do not meet; in one section they are under different keys.
    cases x <;> cases y <;> first
      | rfl
      | simp only [Registry.add]
        rw [Keyed.put_comm (by simpa [Registration.slot] using h) hx]

lemma absorbs_add_self (r : Registry) (x : Registration) : registering.Absorbs (r.add x) x :=
  Overwriting.absorbs_write_self (W := registering)

end Proofs

end MbedBlocks
