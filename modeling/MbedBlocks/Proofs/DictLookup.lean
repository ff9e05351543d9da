import MbedBlocks.Dict
import Mathlib.Data.Finset.Card
import Mathlib.Data.List.Nodup
import Mathlib.Data.List.Perm.Basic
import Mathlib.Data.List.Sort
import Mathlib.Tactic.Lemma
import Mathlib.Tactic.SplitIfs

/-!
# Dictionaries as finite maps

Storing and erasing are described by what is found under each key, and a dictionary is determined by
that.
-/

namespace MbedBlocks.Dict

variable {α : Type}

lemma get?_insert_self (d : Dict α) (key : String) (value : α) :
    (d.insert key value).get? key = some value := by
  rw [get?_insert, if_pos rfl]

lemma lookup_filter {p : String → Bool} {key : String} (h : p key = true)
    (entries : List (String × α)) :
    (entries.filter fun entry => p entry.1).lookup key = entries.lookup key := by
  induction entries with
  | nil => rfl
  | cons entry rest ih =>
    by_cases hkey : key = entry.1
    · rw [List.filter_cons_of_pos (by rw [← hkey, h]), lookup_cons_ite, lookup_cons_ite,
        if_pos hkey, if_pos hkey]
    · by_cases hp : p entry.1 = true
      · rw [List.filter_cons, if_pos hp, lookup_cons_ite, lookup_cons_ite, if_neg hkey, if_neg hkey,
          ih]
      · rw [List.filter_cons, if_neg hp, lookup_cons_ite, if_neg hkey, ih]

lemma get?_erase (d : Dict α) (key key' : String) :
    (d.erase key).get? key' = if key' = key then none else d.get? key' := by
  split_ifs with hkey
  · refine List.lookup_eq_none_iff.mpr fun entry hentry => ?_
    have hne : entry.1 ≠ key := by simpa using (List.mem_filter.mp hentry).2
    rw [hkey]
    exact bne_iff_ne.mpr (Ne.symm hne)
  · exact lookup_filter (p := fun first => first != key) (bne_iff_ne.mpr hkey) d.entries

lemma ext_entries {d d' : Dict α} (h : d.entries = d'.entries) : d = d' := by
  cases d
  cases d'
  simp_all

lemma get?_of_mem {d : Dict α} {key : String} {value : α} (h : (key, value) ∈ d.entries) :
    d.get? key = some value := by
  obtain ⟨entries, hordered⟩ := d
  change entries.lookup key = some value
  change (key, value) ∈ entries at h
  induction entries with
  | nil => cases h
  | cons entry rest ih =>
    obtain ⟨hfirst, hrest⟩ := List.pairwise_cons.mp hordered
    rw [lookup_cons_ite]
    rcases List.mem_cons.mp h with rfl | h
    · exact if_pos rfl
    · have hne : key ≠ entry.1 := by
        intro hkey
        have hlt : entry.1 < key := hfirst (key, value) h
        exact String.lt_irrefl _ (hkey ▸ hlt)
      rw [if_neg hne]
      exact ih hrest h

lemma mem_entries_iff {d : Dict α} {key : String} {value : α} :
    (key, value) ∈ d.entries ↔ d.get? key = some value := by
  refine ⟨get?_of_mem, fun h => ?_⟩
  obtain ⟨before, after, hsplit, -⟩ := List.lookup_eq_some_iff.mp h
  rw [hsplit]
  simp

lemma mem_keys_iff {d : Dict α} {key : String} : key ∈ d.keys ↔ (d.get? key).isSome := by
  rw [Option.isSome_iff_exists, keys, List.mem_map]
  constructor
  · rintro ⟨⟨_, value⟩, hentry, rfl⟩
    exact ⟨value, get?_of_mem hentry⟩
  · rintro ⟨value, hvalue⟩
    exact ⟨(key, value), mem_entries_iff.mpr hvalue, rfl⟩

lemma card_keys (d : Dict α) : d.keys.toFinset.card = d.size := by
  have hnodup : d.keys.Nodup := by
    refine List.pairwise_map.mpr (d.ordered.imp fun {a b} hlt hkey => ?_)
    exact String.lt_irrefl _ (hkey ▸ hlt)
  rw [List.toFinset_card_of_nodup hnodup, keys, List.length_map]
  rfl

/-- Dictionaries that hold the same under every key are equal. -/
theorem ext_get? {d d' : Dict α} (h : ∀ key, d.get? key = d'.get? key) : d = d' := by
  have hnodup (d : Dict α) : d.entries.Nodup := by
    refine d.ordered.imp fun {a b} hlt => ?_
    rintro rfl
    exact String.lt_irrefl _ hlt
  have hperm : d.entries.Perm d'.entries := by
    refine (List.perm_ext_iff_of_nodup (hnodup d) (hnodup d')).mpr fun entry => ?_
    rw [mem_entries_iff, mem_entries_iff, h]
  refine ext_entries (hperm.eq_of_pairwise (fun a b _ _ hab hba => ?_) d.ordered d'.ordered)
  exact absurd (String.lt_trans hab hba) (String.lt_irrefl _)

lemma erase_of_absent {d : Dict α} {key : String} (h : d.get? key = none) : d.erase key = d := by
  apply ext_get?
  intro key'
  rw [get?_erase]
  split_ifs with hkey
  · rw [hkey, h]
  · rfl

/-- Stores a value under a key or takes away what is stored there. -/
def assign (d : Dict α) (key : String) : Option α → Dict α
  | some value => d.insert key value
  | none => d.erase key

lemma get?_assign (d : Dict α) (key key' : String) (value : Option α) :
    (d.assign key value).get? key' = if key' = key then value else d.get? key' := by
  cases value with
  | none => exact get?_erase d key key'
  | some value => exact get?_insert d key key' value

lemma assign_assign (d : Dict α) (key : String) (value value' : Option α) :
    (d.assign key value).assign key value' = d.assign key value' := by
  apply ext_get?
  intro key'
  simp only [get?_assign]
  split_ifs <;> rfl

lemma assign_comm (d : Dict α) {key key' : String} (h : key ≠ key') (value value' : Option α) :
    (d.assign key value).assign key' value' = (d.assign key' value').assign key value := by
  apply ext_get?
  intro key''
  simp only [get?_assign]
  split_ifs with h₁ h₂
  · exact absurd (h₂.symm.trans h₁) h
  · rfl
  · rfl
  · rfl

end MbedBlocks.Dict
