import MbedBlocks.Diagnostics
import MbedBlocks.Json.Basic
import MbedBlocks.Program.Sections
import MbedBlocks.Text.Lines

/-!
# Programs

An emitted program is kept in its parts until it is rendered as source text.
-/

namespace MbedBlocks

structure Program where
  name : String
  sections : Sections
  /-- Statements that run once, after the registered setup statements. -/
  setupBody : String
  loopBody : String
  warnings : List Warning
  indent : String
  header : Bool
  emitMain : Bool
deriving DecidableEq, Repr

namespace Program

def hasWarnings (p : Program) : Bool := !p.warnings.isEmpty

/-- The comment lines that open a program. -/
def banner (p : Program) : String :=
  if p.header then
    (if p.name = "" then "// Auto-generated code from an mbed block graph\n"
      else "// Auto-generated code from mbed block graph: " ++ p.name ++ "\n") ++
      "// DO NOT EDIT - Changes will be overwritten\n" ++
      "// Compiled with MBGC (mbed Block Graph Compiler)\n\n"
  else ""

def includeLines (p : Program) : String :=
  String.join (p.sections.includes.map (· ++ "\n")) ++ "\n"

def functionLines (p : Program) : String :=
  String.join (p.sections.functions.map (· ++ "\n\n"))

def declarationLines (p : Program) : String :=
  if p.sections.declarations.isEmpty then ""
  else String.join (p.sections.declarations.map (· ++ "\n")) ++ "\n"

/-- The registered setup statements, then those of the setup body. -/
def setupLines (p : Program) : String :=
  String.join (p.sections.setup.map fun s => Text.trimEnd s ++ "\n") ++ p.setupBody

/-- Setup and loop inside `main`, or one after the other. -/
def mainLines (p : Program) : String :=
  if p.emitMain then
    "int main() \x7b\n" ++ Text.indentLines p.setupLines p.indent ++
      p.indent ++ "while (1) \x7b\n" ++
      Text.indentLines p.loopBody (p.indent ++ p.indent) ++
      p.indent ++ "\x7d\n" ++ "\x7d\n"
  else p.setupLines ++ (if p.loopBody = "" then "" else "\n" ++ p.loopBody)

/-- The source text: banner, includes, functions, declarations, setup and loop. -/
def render (p : Program) : String :=
  p.banner ++ p.includeLines ++ p.functionLines ++ p.declarationLines ++ p.mainLines

end Program

end MbedBlocks
