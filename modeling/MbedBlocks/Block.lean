import MbedBlocks.Decimal.Layout
import MbedBlocks.Dict
import MbedBlocks.ValueType

/-!
# Blocks

A block of the editor: its kind, the values of its fields, and the ids of the blocks in its sockets
and behind it. Dropdown options and warnings are kept on the block as well.
-/

namespace MbedBlocks

/-- What a field holds: a checkbox, a number entry, or text and dropdown selections. -/
inductive FieldValue where
  | checkbox (on : Bool)
  | number (x : Float)
  | text (s : String)
deriving DecidableEq

/-- The field as program text; checkboxes read `TRUE` and `FALSE`. -/
def FieldValue.render : FieldValue → String
  | checkbox true => "TRUE"
  | checkbox false => "FALSE"
  | number x => Decimal.program x
  | text s => s

structure Block where
  id : String
  kind : String
  fields : Dict FieldValue := {}
  /-- Value sockets and the block plugged into each. -/
  values : Dict String := {}
  /-- Statement sockets and the first block of the chain in each. -/
  statements : Dict String := {}
  next : Option String := none
  /-- Declared result type of a value block. -/
  output : Option ValueType := none
  /-- Current dropdown options of fields. -/
  options : Dict (List String) := {}
  /-- Warnings by tag. -/
  warnings : Dict String := {}
deriving DecidableEq

namespace Block

/-- Field text, empty for a field the block does not carry. -/
def text (b : Block) (name : String) : String := ((b.fields.get? name).map (·.render)).getD ""

/-- Field text, or `fallback` for a field that is missing or empty. -/
def textOr (b : Block) (name fallback : String) : String :=
  if b.text name = "" then fallback else b.text name

def setField (b : Block) (name : String) (value : FieldValue) : Block :=
  { b with fields := b.fields.insert name value }

/-- A checkbox is on as such or as the text `TRUE`. -/
def isChecked (b : Block) (name : String) : Bool :=
  match b.fields.get? name with
  | some (.checkbox on) => on
  | some (.text s) => s == "TRUE"
  | _ => false

def warning? (b : Block) (tag : String) : Option String := b.warnings.get? tag

/-- Stores a warning under a tag, or takes away the one stored there. -/
def setWarning (b : Block) (tag : String) : Option String → Block
  | some message => { b with warnings := b.warnings.insert tag message }
  | none => { b with warnings := b.warnings.erase tag }

/-- The ids that the sockets and the next link of the block name. -/
def links (b : Block) : List String := b.values.values ++ b.statements.values ++ b.next.toList

end Block

end MbedBlocks
