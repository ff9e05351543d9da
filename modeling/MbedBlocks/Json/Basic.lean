import MbedBlocks.Dict

/-!
# JSON values

The values of documents, and how records, lists, dictionaries and variants are taken out of them.
Nothing here says why a document is refused: it either has the asked shape or it has not.
-/

namespace MbedBlocks

/-- A JSON value. Whole numbers of up to 64 bits stand apart from doubles. `garbled` is a string that
is no text, because it holds half of a surrogate pair, or an object with such a key; it may stand
only where a value is ignored. -/
inductive Json where
  | null
  | bool (b : Bool)
  | int (n : Int)
  | num (x : Float)
  | str (s : String)
  | garbled
  | arr (items : List Json)
  | obj (members : List (String × Json))

namespace Json

def text? : Json → Option String
  | str s => some s
  | _ => none

def bool? : Json → Option Bool
  | bool b => some b
  | _ => none

def listOf? {α : Type} (item? : Json → Option α) : Json → Option (List α)
  | arr items => items.mapM item?
  | _ => none

/-- Every member must have the shape, also one that a later member of the same key replaces. -/
def dictOf? {α : Type} (value? : Json → Option α) : Json → Option (Dict α)
  | obj members =>
    (members.mapM fun m => (value? m.2).map fun v => (m.1, v)).map Dict.ofList
  | _ => none

/-- A value that may be `null`. -/
def optional? {α : Type} (value? : Json → Option α) : Json → Option (Option α)
  | null => some none
  | j => (value? j).map some

/-- A plain variant: its name, or an object with the name as only key and `null` under it. -/
def variant? {α : Type} (ofName? : String → Option α) : Json → Option α
  | str s => ofName? s
  | obj [(s, null)] => ofName? s
  | _ => none

/-- The members of a record by name. A record is an object, where each of the names may come at most
once and other keys do not matter, or an array with the members in their order. -/
def record? (names : List String) : Json → Option (String → Option Json)
  | obj members =>
    if names.all fun n => members.countP (fun m => m.1 == n) ≤ 1 then
      some fun n => members.lookup n
    else none
  | arr items =>
    if items.length ≤ names.length then some fun n => (names.zip items).lookup n else none
  | _ => none

/-- A member that must be there. -/
def required? {α : Type} (value? : Json → Option α) (member : Option Json) : Option α :=
  member.bind value?

/-- A member that takes a value of its own when it is left out. -/
def orElse? {α : Type} (value? : Json → Option α) (fallback : α) : Option Json → Option α
  | some j => value? j
  | none => some fallback

end Json

end MbedBlocks
