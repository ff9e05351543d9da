import MbedBlocks.Board.Profile
import MbedBlocks.Graph
import MbedBlocks.Kind.Catalogue

/-!
# Refreshing dropdown options

After a change of board the dropdowns of blocks take the options of the new board. A value that is
no longer offered stays in its field, and the block is marked.
-/

namespace MbedBlocks

open Board (Category)

def staleMessage (value : String) : String :=
  "The old pin value " ++ value ++ " is no longer available."

namespace Block

/-- The value of a field if the board does not offer it. -/
def staleValue? (b : Block) (board : Board) (field : String) (category : Category) :
    Option String :=
  if board.hasOption category (b.text field) then none else some (b.text field)

def refreshField (b : Block) (board : Board) (field : String) (category : Category) : Block :=
  { b with options := b.options.insert field (board.optionValues category) }

/-- Marks the block for a value that is not offered, or takes the mark away. -/
def markStale (b : Block) (stale : Option String) : Block :=
  b.setWarning Tag.staleOption (stale.map staleMessage)

def staleWarning (b : Block) (value : String) : Warning :=
  { blockId := b.id, tag := Tag.staleOption, message := staleMessage value }

/-- Refreshes one field, whatever the kind of the block. -/
def refreshOption (b : Block) (board : Board) (field : String) (category : Category) :
    Block × Option Warning :=
  let stale := b.staleValue? board field category
  ((b.refreshField board field category).markStale stale, stale.map b.staleWarning)

/-- The fields bound to the board that the block carries; an editor drops those that do not
apply. -/
def boundFields (b : Block) : List (String × Category) :=
  b.optionFields.filter fun f => b.fields.contains f.1

/-- Refreshes one bound field and remembers its value if the board does not offer it. -/
def refreshBound (board : Board) (state : Block × Option String) (field : String × Category) :
    Block × Option String :=
  let (b, stale) := state
  ((b.refreshOption board field.1 field.2).1, (b.staleValue? board field.1 field.2).or stale)

/-- Refreshes the bound fields one after the other. Each of them marks the block anew or takes the
mark away, whatever those before it did. -/
def refreshInTurn (b : Block) (board : Board) : Block × Option String :=
  b.boundFields.foldl (refreshBound board) (b, none)

/-- The last of the bound values that the board does not offer. -/
def stale? (b : Block) (board : Board) : Option String := (b.refreshInTurn board).2

/-- Refreshes all bound fields. The block is marked if any of them is stale, be it the last one or
not. A block whose kind binds none stays as it is. -/
def refresh (b : Block) (board : Board) : Block :=
  if b.optionFields.isEmpty then b else (b.refreshInTurn board).1.markStale (b.stale? board)

/-- Whether a refresh takes the mark of an earlier one away. -/
def losesMark (b : Block) (board : Board) : Bool :=
  !b.optionFields.isEmpty && (b.warning? Tag.staleOption).isSome && (b.stale? board).isNone

end Block

/-- The marks that a refresh placed and those that it took away. -/
structure OptionRefresh where
  stale : List Warning := []
  cleared : List ClearedWarning := []
deriving DecidableEq, Repr

/-- Refreshes every block of a graph. -/
def Graph.refreshOptions (g : Graph) (board : Board) : Graph × OptionRefresh :=
  let stale := g.blocks.filterMap fun b => (b.stale? board).map b.staleWarning
  let cleared := (g.blocks.filter fun b => b.losesMark board).map fun b =>
    { blockId := b.id, tag := Tag.staleOption }
  ({ g with blocks := g.blocks.map fun b => b.refresh board }, { stale, cleared })

end MbedBlocks
