import MbedBlocks.Graph.Document
import MbedBlocks.Program.Basic

/-!
# Program documents

Programs as JSON; every member must be there.
-/

namespace MbedBlocks

open Json

def Sections.ofJson? (j : Json) : Option Sections := do
  let member ← j.record? ["includes", "functions", "declarations", "setup"]
  let includes ← required? (listOf? text?) (member "includes")
  let functions ← required? (listOf? text?) (member "functions")
  let declarations ← required? (listOf? text?) (member "declarations")
  let setup ← required? (listOf? text?) (member "setup")
  return { includes, functions, declarations, setup }

def Program.ofJson? (j : Json) : Option Program := do
  let member ← j.record?
    ["name", "sections", "setup_body", "loop_body", "warnings", "indent", "header", "emit_main"]
  let name ← required? text? (member "name")
  let sections ← required? Sections.ofJson? (member "sections")
  let setupBody ← required? text? (member "setup_body")
  let loopBody ← required? text? (member "loop_body")
  let warnings ← required? (listOf? Warning.ofJson?) (member "warnings")
  let indent ← required? text? (member "indent")
  let header ← required? bool? (member "header")
  let emitMain ← required? bool? (member "emit_main")
  return { name, sections, setupBody, loopBody, warnings, indent, header, emitMain }

end MbedBlocks
