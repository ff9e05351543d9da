import MbedBlocks.Check.Consistency
import MbedBlocks.Check.Options
import MbedBlocks.Options

/-!
# Checking a graph

The whole check after a change of the graph: dropdown options first, then the rules between blocks.
-/

namespace MbedBlocks

/-- Checks a graph for the board that the options choose. The report lists the findings on
consistency before those on options. -/
def Graph.check (g : Graph) (options : Options) (boards : Boards) :
    Except Error (Graph × CheckReport) := do
  let board ← boards.get options.board
  let (refreshed, refresh) := g.refreshOptions board
  let (checked, report) := refreshed.checkConsistency board
  return (checked,
    { set := report.set ++ refresh.stale, cleared := report.cleared ++ refresh.cleared })

end MbedBlocks
