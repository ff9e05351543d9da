import MbedBlocks.Proofs.LoadedAndBuilt
import MbedBlocks.Proofs.Upserts

/-!
# Final sections

A sequence of registrations, in whatever order the sections take turns, is described without the
registry: the keys of a section in the order in which they came first, and for each key what was
given for it last. Both are read off the sequence from its end, one registration at a time.
-/

namespace MbedBlocks

namespace Keyed

variable {α : Type}

/-- What the writes give for a key last. -/
def lastGiven? (writes : List (String × α)) (key : String) : Option α := writes.reverse.lookup key

/-- The keys of the writes, once each and where they came first. -/
def firstPlaces (writes : List (String × α)) : List String := (writes.map Prod.fst).eraseDups

/-- One value for each key, at its first place and as it was given last. -/
def lasting (writes : List (String × α)) : List α :=
  (firstPlaces writes).filterMap (lastGiven? writes)

def putAll (k : Keyed α) (writes : List (String × α)) : Keyed α :=
  writes.foldl (fun k write => k.put write.1 write.2) k

lemma putAll_concat (k : Keyed α) (writes : List (String × α)) (write : String × α) :
    k.putAll (writes ++ [write]) = (k.putAll writes).put write.1 write.2 := by
  unfold putAll
  rw [List.foldl_append]
  rfl

/-- Run: the last value of a key is found. -/
lemma get?_putAll (writes : List (String × α)) (key : String) :
    (putAll ∅ writes).get? key = lastGiven? writes key := by
  induction writes using List.reverseRecOn with
  | nil => rfl
  | append_singleton writes write ih =>
    rw [putAll_concat, get?_put, ih, lastGiven?, lastGiven?, List.reverse_append,
      List.reverse_singleton, List.singleton_append, Dict.lookup_cons_ite]

lemma keys_put (k : Keyed α) (key : String) (value : α) :
    (k.put key value).entries.map Prod.fst =
      if key ∈ k.entries.map Prod.fst then k.entries.map Prod.fst
      else k.entries.map Prod.fst ++ [key] := by
  rw [entries_put_eq_upsert, Proofs.keys_upsert]

/-- Run: a key keeps its first place. -/
lemma keys_putAll (writes : List (String × α)) :
    (putAll ∅ writes).entries.map Prod.fst = firstPlaces writes := by
  unfold firstPlaces
  induction writes using List.reverseRecOn with
  | nil => rfl
  | append_singleton writes write ih =>
    rw [putAll_concat, keys_put, ih, List.map_append, List.map_singleton, eraseDups_concat]
    simp only [List.mem_eraseDups]

lemma values_eq_filterMap (k : Keyed α) : k.values = (k.entries.map Prod.fst).filterMap k.get? := by
  have hget : ∀ entry ∈ k.entries, (k.get? ∘ Prod.fst) entry = some entry.2 := by
    intro entry hentry
    obtain ⟨i, hi⟩ := List.mem_iff_getElem?.mp hentry
    simp [get?, position_of_entry hi, hi]
  rw [List.filterMap_map, List.filterMap_congr hget, List.filterMap_eq_map']
  rfl

/-- What is left of a sequence of writes. -/
theorem values_putAll (writes : List (String × α)) : (putAll ∅ writes).values = lasting writes := by
  have hget : (putAll ∅ writes).get? = lastGiven? writes := funext (get?_putAll writes)
  rw [values_eq_filterMap, keys_putAll, hget, lasting]

lemma size_putAll (writes : List (String × α)) :
    (putAll ∅ writes).size = (firstPlaces writes).length := by
  rw [← keys_putAll, List.length_map, size]

end Keyed

namespace Registry

/-! What a sequence of registrations writes to each section. -/

def headerWrites (calls : List Registration) : List (String × String) :=
  calls.filterMap fun
    | .header key text => some (key, text)
    | _ => none

def functionWrites (calls : List Registration) : List (String × String) :=
  calls.filterMap fun
    | .function key text => some (key, text)
    | _ => none

def declarationWrites (calls : List Registration) : List (String × String) :=
  calls.filterMap fun
    | .declaration key text => some (key, text)
    | _ => none

def setupWrites (calls : List Registration) : List (String × SetupEntry) :=
  calls.filterMap fun
    | .setup key text runFirst => some (key, { text, runFirst })
    | _ => none

/-- The sections do not meet: each takes its own writes in their order. -/
theorem addAll_eq (calls : List Registration) :
    addAll {} calls =
      { includes := .putAll ∅ (headerWrites calls)
        functions := .putAll ∅ (functionWrites calls)
        declarations := .putAll ∅ (declarationWrites calls)
        setups := .putAll ∅ (setupWrites calls) } := by
  induction calls using List.reverseRecOn with
  | nil => rfl
  | append_singleton calls call ih =>
    have hadd : addAll {} (calls ++ [call]) = (addAll {} calls).add call := by
      unfold addAll
      rw [List.foldl_append]
      rfl
    rw [hadd, ih]
    simp only [headerWrites, functionWrites, declarationWrites, setupWrites,
      List.filterMap_append]
    cases call with
    | header key text | function key text | declaration key text | setup key text runFirst =>
      simp [add, Keyed.putAll_concat]

end Registry

namespace Proofs

open Keyed (firstPlaces lastGiven? lasting)
open Registry (declarationWrites functionWrites headerWrites mbedInclude setupWrites)

/-- A registry filled by any sequence of registrations holds what the sequence says of itself. -/
theorem sections_of_registrations (calls : List Registration) :
    let r := Registry.addAll {} calls
    r.sections.functions = lasting (functionWrites calls) ∧
    r.sections.declarations = lasting (declarationWrites calls) ∧
    r.sections.setup =
      ((lasting (setupWrites calls)).filter (fun entry => entry.runFirst) ++
        (lasting (setupWrites calls)).filter fun entry => !entry.runFirst).map SetupEntry.text ∧
    r.sections.includes =
      mbedInclude :: (lasting (headerWrites calls)).filter (fun text => text != mbedInclude) ∧
    (∀ key, r.functions.get? key = lastGiven? (functionWrites calls) key ∧
      r.declarations.get? key = lastGiven? (declarationWrites calls) key ∧
      r.setupText? key = (lastGiven? (setupWrites calls) key).map SetupEntry.text) ∧
    r.size =
      (firstPlaces (headerWrites calls)).length + (firstPlaces (functionWrites calls)).length +
        (firstPlaces (declarationWrites calls)).length + (firstPlaces (setupWrites calls)).length ∧
    (Registry.addAll {} (calls ++ calls)).sections = r.sections := by
  intro r
  have htwice : Registry.addAll {} (calls ++ calls) = r := by
    unfold Registry.addAll
    rw [List.foldl_append]
    exact Overwriting.foldl_write_twice (W := registering) {} calls
  have hr : r = _ := Registry.addAll_eq calls
  rw [htwice, hr]
  simp [Registry.sections, Registry.setupText?, Registry.size, Keyed.values_putAll,
    Keyed.get?_putAll, Keyed.size_putAll]

-- A statement moves to the front with its last registration, and keeps its place among those there.
example : (Registry.addAll {} [.setup "a" "a();" false, .setup "b" "b();" true,
    .setup "a" "a(1);" true, .setup "c" "c();" false]).sections.setup =
      ["a(1);", "b();", "c();"] := by decide

end Proofs

end MbedBlocks
