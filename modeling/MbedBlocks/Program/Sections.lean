import MbedBlocks.Dict

/-!
# Sections of a program

Includes, functions, declarations and setup statements are collected under keys while blocks are
emitted. A key keeps the place of its first registration and the text of its last, so a pin that ten
blocks use is declared once.
-/

namespace MbedBlocks

namespace Dict

/-- A table leads from each of the keys to its place, and from no other text anywhere. -/
def Indexes (positions : Dict Nat) (keys : List String) : Prop :=
  ∀ key i, positions.get? key = some i ↔ keys[i]? = some key

theorem indexes_empty : Indexes {} [] := fun key i => by
  constructor
  · intro h
    cases h
  · intro h
    cases h

theorem Indexes.append {positions : Dict Nat} {keys : List String} (h : positions.Indexes keys)
    {new : String} (hnew : positions.get? new = none) :
    (positions.insert new keys.length).Indexes (keys ++ [new]) := by
  intro key i
  rw [get?_insert]
  by_cases hi : i < keys.length
  · rw [List.getElem?_append_left hi, ← h key i]
    by_cases hkey : key = new
    · subst hkey
      simp [hnew, Nat.ne_of_gt hi]
    · rw [if_neg hkey]
  · have hbeyond : positions.get? key ≠ some i := fun hget => by
      have hlisted := (h key i).mp hget
      rw [List.getElem?_eq_none (Nat.le_of_not_lt hi)] at hlisted
      cases hlisted
    rw [List.getElem?_append_right (Nat.le_of_not_lt hi), List.getElem?_singleton]
    by_cases hkey : key = new
    · subst hkey
      rw [if_pos rfl]
      split <;> simp <;> omega
    · rw [if_neg hkey]
      split <;> simp [hbeyond, Ne.symm hkey]

end Dict

/-- Entries under keys, in the order in which the keys came first, with a table of their
positions. -/
structure Keyed (α : Type) where
  entries : List (String × α)
  positions : Dict Nat
  indexed : positions.Indexes (entries.map (·.1))

namespace Keyed

variable {α : Type}

instance [DecidableEq α] : DecidableEq (Keyed α) := fun a b =>
  decidable_of_iff (a.entries = b.entries ∧ a.positions = b.positions)
    (by cases a; cases b; simp)

instance [Repr α] : Repr (Keyed α) := ⟨fun k n => reprPrec k.entries n⟩

def empty : Keyed α := ⟨[], {}, Dict.indexes_empty⟩

instance : EmptyCollection (Keyed α) := ⟨empty⟩

instance : Inhabited (Keyed α) := ⟨empty⟩

@[simp] theorem entries_empty : (∅ : Keyed α).entries = [] := rfl

/-- The value at the position of the key. -/
def get? (k : Keyed α) (key : String) : Option α :=
  (k.positions.get? key).bind fun i => k.entries[i]?.map (·.2)

def size (k : Keyed α) : Nat := k.entries.length

def values (k : Keyed α) : List α := k.entries.map (·.2)

/-- Writes a value into the entry at a position. -/
def overwrite (k : Keyed α) (i : Nat) (value : α) : Keyed α where
  entries := k.entries.modify i fun entry => (entry.1, value)
  positions := k.positions
  indexed := by
    have hkeys : (k.entries.modify i fun entry => (entry.1, value)).map (·.1) =
        k.entries.map (·.1) := by
      apply List.ext_getElem?
      intro j
      rw [List.getElem?_map, List.getElem?_map, List.getElem?_modify]
      split <;> simp [Function.comp_def]
    rw [hkeys]
    exact k.indexed

/-- Adds an entry for a new key at the end. -/
def append (k : Keyed α) (key : String) (value : α) (hnew : k.positions.get? key = none) :
    Keyed α where
  entries := k.entries ++ [(key, value)]
  positions := k.positions.insert key k.entries.length
  indexed := by simpa using k.indexed.append hnew

/-- Replaces the value of a key at its place, or adds the key at the end. -/
def put (k : Keyed α) (key : String) (value : α) : Keyed α :=
  match h : k.positions.get? key with
  | some i => k.overwrite i value
  | none => k.append key value h

end Keyed

/-- A setup statement; those that run first come before all others. -/
structure SetupEntry where
  text : String
  runFirst : Bool
deriving DecidableEq, Repr

/-- The global parts of a program in their final order. -/
structure Sections where
  includes : List String := []
  functions : List String := []
  declarations : List String := []
  setup : List String := []
deriving DecidableEq, Repr

/-- The global parts of a program while it is emitted. -/
structure Registry where
  includes : Keyed String := {}
  functions : Keyed String := {}
  declarations : Keyed String := {}
  setups : Keyed SetupEntry := {}
deriving DecidableEq, Repr

/-- One registration of a part under its key. -/
inductive Registration where
  | header (key text : String)
  | function (key text : String)
  | declaration (key text : String)
  | setup (key text : String) (runFirst : Bool)
deriving DecidableEq, Repr

namespace Registry

/-- Every program includes this header first. -/
def mbedInclude : String := "#include \"mbed.h\""

def add (r : Registry) : Registration → Registry
  | .header key text => { r with includes := r.includes.put key text }
  | .function key text => { r with functions := r.functions.put key text }
  | .declaration key text => { r with declarations := r.declarations.put key text }
  | .setup key text runFirst => { r with setups := r.setups.put key { text, runFirst } }

def addAll (r : Registry) (registrations : List Registration) : Registry :=
  registrations.foldl add r

def size (r : Registry) : Nat :=
  r.includes.size + r.functions.size + r.declarations.size + r.setups.size

def setupText? (r : Registry) (key : String) : Option String := (r.setups.get? key).map (·.text)

/-- The parts in their final order. -/
def sections (r : Registry) : Sections where
  includes := mbedInclude :: r.includes.values.filter (· != mbedInclude)
  functions := r.functions.values
  declarations := r.declarations.values
  setup :=
    ((r.setups.values.filter (·.runFirst)) ++ r.setups.values.filter (!·.runFirst)).map (·.text)

end Registry

end MbedBlocks
