import MbedBlocks.Check
import MbedBlocks.Graph.Document

/-!
# Workspaces

A graph in the hands of an editor. Blocks are found and changed through a table that holds, for every
id, the position of the block it means. Loading a document makes the table, adding blocks keeps it up
to date, and documents do not contain it.
-/

namespace MbedBlocks

structure Workspace where
  graph : Graph := {}
  /-- The position of the block that an id means. -/
  positions : Dict Nat := {}
deriving DecidableEq

namespace Workspace

/-- The workspace of a graph with a name and no blocks. -/
def named (name : String) : Workspace := { graph := .named name }

/-- The positions of ids in a list of blocks. An id that is repeated means the last of its blocks. -/
def tabulate (blocks : List Block) : Dict Nat := Dict.ofList (blocks.map Block.id).zipIdx

/-- The workspace of a graph as a document lists it. -/
def load (g : Graph) : Workspace := { graph := g, positions := tabulate g.blocks }

def ofJson? (j : Json) : Option Workspace := (Graph.ofJson? j).map load

def toJson (w : Workspace) : Json := w.graph.toJson

/-- The workspace of a document. -/
def read (text : String) : Except Error Workspace := do return load (← Graph.read text)

/-- The document of a workspace. -/
def write (w : Workspace) : String := w.graph.write

def withBlocks (w : Workspace) (blocks : List Block) : Workspace :=
  { w with graph := { w.graph with blocks } }

/-- The block at the position of the id. -/
def get? (w : Workspace) (id : String) : Option Block :=
  (w.positions.get? id).bind fun i => w.graph.blocks[i]?

/-- Changes the block at the position of the id. -/
def modify (w : Workspace) (id : String) (f : Block → Block) : Workspace :=
  match w.positions.get? id with
  | some i => w.withBlocks (w.graph.blocks.modify i f)
  | none => w

/-- Puts the block at the position of its id, or at the end if the id has none. -/
def addBlock (w : Workspace) (block : Block) : Workspace :=
  match w.positions.get? block.id with
  | some i => w.withBlocks (w.graph.blocks.set i block)
  | none =>
    { w.withBlocks (w.graph.blocks ++ [block]) with
      positions := w.positions.insert block.id w.graph.blocks.length }

def setField (w : Workspace) (id name : String) (value : FieldValue) : Workspace :=
  w.modify id fun b => b.setField name value

def setWarning (w : Workspace) (id tag : String) (message : Option String) : Workspace :=
  w.modify id fun b => b.setWarning tag message

/-- Puts the warnings of a compilation on their blocks. Warnings of earlier compilations that are
not reported any more are taken away from all blocks and listed. -/
def applyWarnings (w : Workspace) (warnings : List Warning) : Workspace × List ClearedWarning :=
  let cleaned := w.graph.blocks.map fun b =>
    (Graph.outdatedTags warnings b).foldl (fun b tag => b.setWarning tag none) b
  let cleared := w.graph.blocks.flatMap fun b =>
    (Graph.outdatedTags warnings b).map fun tag => { blockId := b.id, tag }
  let annotated := warnings.foldl
    (fun w warning => w.setWarning warning.blockId warning.tag (some warning.message))
    (w.withBlocks cleaned)
  (annotated, cleared)

/-- Refreshes every block where it stands. -/
def refreshOptions (w : Workspace) (board : Board) : Workspace × OptionRefresh :=
  let (g, refresh) := w.graph.refreshOptions board
  ({ w with graph := g }, refresh)

/-- Writes one change of a check to the block that its id means. A change for no block is dropped. -/
def writeUpdate (state : Workspace × CheckReport) (change : String × Update) :
    Workspace × CheckReport :=
  let (w, report) := state
  let (id, update) := change
  match w.get? id with
  | none => state
  | some b =>
    match update with
    | .warn tag message =>
      (w.setWarning id tag (some message),
        { report with set := report.set ++ [{ blockId := id, tag, message }] })
    | .clear tag =>
      if (b.warning? tag).isSome then
        (w.setWarning id tag none,
          { report with cleared := report.cleared ++ [{ blockId := id, tag }] })
      else state
    | .label field text => (w.setField id field (.text text), report)

/-- Checks the rules between blocks and writes what follows from them to the blocks. -/
def checkConsistency (w : Workspace) (board : Board) : Workspace × CheckReport :=
  (Check.updates w.graph board).foldl writeUpdate (w, {})

/-- Checks a workspace for the board that the options choose. -/
def check (w : Workspace) (options : Options) (boards : Boards) :
    Except Error (Workspace × CheckReport) := do
  let board ← boards.get options.board
  let (refreshed, refresh) := w.refreshOptions board
  let (checked, report) := refreshed.checkConsistency board
  return (checked,
    { set := report.set ++ refresh.stale, cleared := report.cleared ++ refresh.cleared })

end Workspace

end MbedBlocks
