import MbedBlocks.Board.Profile
import MbedBlocks.Decimal.Numeral
import MbedBlocks.Graph
import MbedBlocks.Kind.Catalogue
import MbedBlocks.Text.Blank

/-!
# Consistency of a graph

Three rules hold between blocks. The two pins of a setup block belong to one unit; a block that
works on a unit has a setup block for it at top level; the literal frequency of a tone is audible.
What follows from them is worked out on the graph as it is and then written to the blocks, as
warnings and labels.
-/

namespace MbedBlocks

/-- A change to one block. -/
inductive Update where
  | warn (tag message : String)
  | clear (tag : String)
  | label (field text : String)
deriving DecidableEq, Repr

/-- The warnings that a check placed and those that it took away. -/
structure CheckReport where
  set : List Warning := []
  cleared : List ClearedWarning := []
deriving DecidableEq, Repr

namespace CheckReport

def isClean (r : CheckReport) : Bool := r.set.isEmpty

def warningsFor (r : CheckReport) (id : String) : List Warning :=
  r.set.filter fun w => w.blockId == id

end CheckReport

namespace Check

/-- The instance that a setup block configures: the unit of its primary pin, if it has one, or the
text that names it. -/
def instanceOf? (board : Board) (b : Block) : Option (Family × String) :=
  match b.info? with
  | none => none
  | some info =>
    match info.pairedSetup?, info.namedSetup? with
    | some setup, _ =>
      (board.unit (b.text setup.primary) setup.mapper).toOption.map fun unit => (setup.family, unit)
    | none, some named => some (named.family, b.text named.field)
    | none, none => none

/-- The instances that top-level blocks configure. -/
def instances (g : Graph) (board : Board) : List (Family × String) :=
  g.topBlocks.filterMap (instanceOf? board)

def neutralLabel (setup : PairedSetup) : List Update :=
  setup.label.toList.map fun label => .label label.field label.neutral

def unitLabel (setup : PairedSetup) (unit : String) : List Update :=
  setup.label.toList.map fun label => .label label.field (label.render unit)

/-- The two pins of a setup block must have a unit, and one and the same. -/
def pairing (board : Board) (b : Block) (setup : PairedSetup) : List Update :=
  let secondaryPin := b.text setup.secondary
  match board.unit (b.text setup.primary) setup.mapper with
  | .error e =>
    [.warn Tag.unknownResource e.message, .clear setup.mismatchTag] ++ neutralLabel setup
  | .ok unit =>
    let secondary := (board.unit secondaryPin setup.mapper).toOption
    .clear Tag.unknownResource ::
      if secondary = some unit then .clear setup.mismatchTag :: unitLabel setup unit
      else
        .warn setup.mismatchTag
          (Error.structuralMismatch
            (unit ++ " mismatches " ++ secondary.getD secondaryPin)).message ::
          neutralLabel setup

def missingSetup (unit : String) : Error :=
  .structuralMismatch
    ("A setup block for " ++ unit ++ " must be added to the workspace to use this block!")

/-- The unit that a block works on must be configured. -/
def usage (configured : List (Family × String)) (b : Block) (use : InstanceUse) : List Update :=
  let unit := b.text use.field
  if configured.contains (use.family, unit) then [.clear use.tag]
  else [.warn use.tag (missingSetup unit).message]

/-- Lowest and highest frequency of a tone. -/
def lowestTone : Float := 31

def highestTone : Float := 65535

/-- The number in the frequency socket, if a number block is there. -/
def literalFrequency? (g : Graph) (b : Block) : Option Float :=
  match (b.values.get? "FREQUENCY").bind g.get? with
  | some child =>
    if child.kind = "math_number" then Decimal.readFloat? (Text.trim (child.text "NUM")) else none
  | none => none

def toneMessage (frequency : Float) : String :=
  "Tone frequency " ++ Decimal.plain frequency ++ " Hz is outside the supported range of " ++
    Decimal.plain lowestTone ++ " to " ++ Decimal.plain highestTone ++ " Hz"

def tone (g : Graph) (b : Block) : List Update :=
  match literalFrequency? g b with
  | some frequency =>
    if lowestTone ≤ frequency ∧ frequency ≤ highestTone then [.clear Tag.tone]
    else [.warn Tag.tone (toneMessage frequency)]
  | none => [.clear Tag.tone]

def capabilityUpdates (g : Graph) (board : Board) (configured : List (Family × String))
    (b : Block) : Capability → List Update
  | .pairedSetup setup => pairing board b setup
  | .namedSetup _ => []
  | .uses use => usage configured b use
  | .toneFrequency => tone g b

/-- All changes that follow from the rules, with the ids they are addressed to. -/
def updates (g : Graph) (board : Board) : List (String × Update) :=
  let configured := instances g board
  g.blocks.flatMap fun b =>
    (b.capabilities.flatMap (capabilityUpdates g board configured b)).map fun u => (b.id, u)

/-- Writes one change to the block that its id means. -/
def write (state : Graph × CheckReport) (change : String × Update) : Graph × CheckReport :=
  let (g, report) := state
  let (id, update) := change
  match update with
  | .warn tag message =>
    (g.modify id fun b => b.setWarning tag (some message),
      { report with set := report.set ++ [{ blockId := id, tag, message }] })
  | .clear tag =>
    if ((g.get? id).bind fun b => b.warning? tag).isSome then
      (g.modify id fun b => b.setWarning tag none,
        { report with cleared := report.cleared ++ [{ blockId := id, tag }] })
    else (g, report)
  | .label field text => (g.modify id fun b => b.setField field (.text text), report)

end Check

/-- Checks the rules and writes what follows from them to the blocks. -/
def Graph.checkConsistency (g : Graph) (board : Board) : Graph × CheckReport :=
  (Check.updates g board).foldl Check.write (g, {})

end MbedBlocks
