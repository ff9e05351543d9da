import MbedBlocks.Proofs.Annotations
import MbedBlocks.Proofs.SourceOrder

/-!
# The name of a program

The name of a graph goes nowhere but into the first line of the banner. As long as it is a single
line it stays in that comment. A line feed in the name ends the comment, so the further lines of the
name stand in the program as they are, and only those that open a comment themselves do no harm.
-/

namespace MbedBlocks

namespace Text

/-- A line that is a comment from its first character on. -/
def isComment (line : List Char) : Bool := ['/', '/'].isPrefixOf line

/-- The lines of a text that are left when the comment lines are removed. -/
def codeLines (text : String) : List (List Char) :=
  (lines text.toList).filter fun line => !isComment line

lemma codeLines_append {s : String} (hs : LinesEnd s) (t : String) :
    codeLines (s ++ t) = codeLines s ++ codeLines t := by
  unfold codeLines
  rw [lines_append hs, List.filter_append]

/-- The lines of a name below its first one, comments left out. -/
def spill (name : String) : List (List Char) :=
  (lines (name ++ "\n").toList).tail.filter fun line => !isComment line

/-- A comment that a name follows goes on to the end of the first line of the name. -/
lemma codeLines_comment {opening : String} (hcomment : isComment opening.toList)
    (hopening : '\n' ∉ opening.toList) (name : String) :
    codeLines (opening ++ (name ++ "\n")) = spill name := by
  have hne : (name ++ "\n").toList ≠ [] := by simp
  obtain ⟨line, more, hlines⟩ := List.exists_cons_of_ne_nil (lines_ne_nil hne)
  have hfirst : isComment (opening.toList ++ line) := by
    rw [isComment, List.isPrefixOf_iff_prefix] at hcomment ⊢
    exact hcomment.trans (List.prefix_append _ _)
  rw [codeLines, spill, String.toList_append, lines_opening hopening hlines, hlines,
    List.filter_cons_of_neg (by simp [hfirst]), List.tail_cons]

lemma spill_of_single {name : String} (h : '\n' ∉ name.toList) : spill name = [] := by
  have hlines : lines (name ++ "\n").toList = [name.toList ++ ['\n']] := by
    rw [String.toList_append]
    exact lines_opening h rfl
  rw [spill, hlines]
  rfl

end Text

namespace Program

open Text (LinesEnd codeLines spill)

variable (p : Program)

/-- The comments that follow the name in the banner. -/
def notice : String :=
  "// DO NOT EDIT - Changes will be overwritten\n" ++
    "// Compiled with MBGC (mbed Block Graph Compiler)\n\n"

lemma codeLines_notice : codeLines notice = [['\n']] := by
  have hnotice : notice = ("// DO NOT EDIT - Changes will be overwritten" ++ ("" ++ "\n")) ++
      ("// Compiled with MBGC (mbed Block Graph Compiler)" ++ ("\n" ++ "\n")) := rfl
  rw [hnotice, Text.codeLines_append (Text.linesEnd_closing _ rfl),
    Text.codeLines_comment (by decide) (by decide), Text.codeLines_comment (by decide) (by decide)]
  rfl

lemma codeLines_banner (h : p.header = true) : codeLines p.banner = spill p.name ++ [['\n']] := by
  have hbanner : p.banner = (if p.name = "" then "// Auto-generated code from an mbed block graph\n"
      else "// Auto-generated code from mbed block graph: " ++ (p.name ++ "\n")) ++ notice := by
    unfold banner notice
    rw [if_pos h, String.append_assoc, String.append_assoc]
  rw [hbanner]
  split_ifs with hname
  · have hend : LinesEnd "// Auto-generated code from an mbed block graph\n" :=
      .inr ⟨"// Auto-generated code from an mbed block graph", rfl⟩
    rw [Text.codeLines_append hend, codeLines_notice, hname]
    rfl
  · rw [Text.codeLines_append, codeLines_notice, Text.codeLines_comment (by decide) (by decide)]
    exact .inr ⟨_, (String.append_assoc ..).symm⟩

lemma linesEnd_banner : LinesEnd p.banner := by
  unfold banner
  split_ifs
  · exact Text.linesEnd_closing _ rfl
  · exact Text.linesEnd_closing _ rfl
  · exact .inl rfl

/-- Behind the banner stands what is rendered without one. -/
theorem codeLines_render (h : p.header = true) :
    codeLines p.render =
      spill p.name ++ ['\n'] :: codeLines (render { p with header := false }) := by
  have hrender : p.render = p.banner ++ render { p with header := false } := by
    have hbare : banner { p with header := false } = "" := rfl
    rw [render, render, hbare, String.empty_append]
    simp only [String.append_assoc]
    rfl
  rw [hrender, Text.codeLines_append p.linesEnd_banner, p.codeLines_banner h, List.append_assoc]
  rfl

end Program

namespace Graph

/-- The graph under another name. -/
def rename (g : Graph) (name : String) : Graph :=
  { g with metadata := { g.metadata with name } }

variable (g : Graph) (name : String)

/-- Renaming leaves the blocks and what their ids mean. -/
lemma embeds_rename : Embeds id g (g.rename name) where
  mem hb := hb
  shape _ := ⟨rfl, rfl, rfl, rfl, rfl⟩
  found _ i _ := by
    rw [Option.map_id_fun, id]
    rfl
  rule := by
    intro b k _ _
    cases k <;> rfl

theorem emitBodies_rename (board : Board) (indent : String) :
    (g.rename name).emitBodies ((g.rename name).emitter board indent []) =
      g.emitBodies (g.emitter board indent []) := by
  have hchild := (g.embeds_rename name).emitter board indent []
  have htop : (g.rename name).topBlocks = g.topBlocks.map id := (List.map_id _).symm
  have hmap := mapM_attach_map htop
    (p := fun c hc => g.emitTop (g.emitter board indent []) c (mem_of_mem_topBlocks hc))
    (q := fun c hc => (g.rename name).emitTop ((g.rename name).emitter board indent []) c
      (mem_of_mem_topBlocks hc))
    fun c hc => (g.embeds_rename name).emitTop hchild (mem_of_mem_topBlocks hc)
  unfold emitBodies
  rw [hmap]

end Graph

namespace Proofs

open Text (codeLines spill)

/-- The program of a graph under another name differs in the name only. -/
lemma program_rename (g : Graph) (name : String) (board : Board) (options : Options) :
    (Generator.new (g.rename name) board options).program =
      { (Generator.new g board options).program with name } := by
  rw [program_eq_assembled, program_eq_assembled, Graph.emitBodies_rename]
  rfl

/-- The source text of a graph under a name, with the banner. -/
def namedSource (g : Graph) (board : Board) (options : Options) (name : String) : String :=
  (Generator.new (g.rename name) board { options with header := true }).program.render

/-- The source text of a graph without a banner. -/
def bareSource (g : Graph) (board : Board) (options : Options) : String :=
  (Generator.new g board { options with header := false }).program.render

lemma codeLines_namedSource_bare (g : Graph) (board : Board) (options : Options) (name : String) :
    codeLines (namedSource g board options name) =
      spill name ++ ['\n'] :: codeLines (bareSource g board options) := by
  have hnamed := (Generator.new (g.rename name) board
    { options with header := true }).program.codeLines_render rfl
  rw [namedSource, hnamed, program_rename]
  rfl

lemma codeLines_namedSource (g : Graph) (board : Board) (options : Options) (name : String) :
    codeLines (namedSource g board options name) =
      spill name ++ codeLines (namedSource g board options "") := by
  rw [codeLines_namedSource_bare, codeLines_namedSource_bare g board options ""]
  rfl

/-- Comments apart, a name adds to the source text the lines that it has below its first one, and
nothing else. So two names give the same code exactly if they have the same such lines, and a name
without a line feed has none. -/
theorem names_spill_into_code (g : Graph) (board : Board) (options : Options)
    (name name' : String) :
    codeLines (namedSource g board options name) =
      spill name ++ codeLines (namedSource g board options "") ∧
    (codeLines (namedSource g board options name) =
      codeLines (namedSource g board options name') ↔ spill name = spill name') ∧
    ('\n' ∉ name.toList → spill name = []) := by
  refine ⟨codeLines_namedSource g board options name, ?_, Text.spill_of_single⟩
  rw [codeLines_namedSource g board options name, codeLines_namedSource g board options name']
  exact List.append_left_inj _

/-- A program that sets a pin and halts. -/
def pump : Graph :=
  { blocks :=
      [{ id := "valve"
         kind := "io_digitalwrite"
         fields := Dict.insert {} "PIN" (.text "PA_5")
         next := some "halt" },
       { id := "halt", kind := "infinite_loop" }] }

lemma mem_codeLines_pump (name : String) :
    "  while(true);\n".toList ∈ codeLines (namedSource pump Board.Nucleo.profile {} name) := by
  have hbare : "  while(true);\n".toList ∈ codeLines (bareSource pump Board.Nucleo.profile {}) := by
    decide +kernel
  rw [codeLines_namedSource_bare]
  exact List.mem_append_right _ (List.mem_cons_of_mem _ hbare)

theorem names_spill_into_code_pump :
    '\n' ∉ "pump // \\".toList ∧ spill "pump // \\" = [] ∧
    codeLines (namedSource pump Board.Nucleo.profile {} "pump // \\") =
      codeLines (namedSource pump Board.Nucleo.profile {} "") ∧
    "  while(true);\n".toList ∈
      codeLines (namedSource pump Board.Nucleo.profile {} "pump // \\") := by
  obtain ⟨hcode, -, hspill⟩ :=
    names_spill_into_code pump Board.Nucleo.profile {} "pump // \\" ""
  have hsingle : '\n' ∉ "pump // \\".toList := by decide
  rw [hspill hsingle, List.nil_append] at hcode
  exact ⟨hsingle, hspill hsingle, hcode, mem_codeLines_pump _⟩

/-- A name with a line feed declares a variable. -/
theorem name_declares_variable :
    "int hatch;\n".toList ∈ codeLines (namedSource {} Board.Nucleo.profile {} "pump\nint hatch;") ∧
    codeLines (namedSource {} Board.Nucleo.profile {} "pump\nint hatch;") ≠
      codeLines (namedSource {} Board.Nucleo.profile {} "pump") := by
  have hspill : spill "pump\nint hatch;" = ["int hatch;\n".toList] := by
    simp [spill, Text.lines, Text.isComment, List.isPrefixOf]
  have hhatch : codeLines (namedSource {} Board.Nucleo.profile {} "pump\nint hatch;") =
      ["int hatch;\n".toList] ++ codeLines (namedSource {} Board.Nucleo.profile {} "") := by
    rw [codeLines_namedSource, hspill]
  have hpump : codeLines (namedSource {} Board.Nucleo.profile {} "pump") =
      codeLines (namedSource {} Board.Nucleo.profile {} "") := by
    rw [codeLines_namedSource, Text.spill_of_single (by decide), List.nil_append]
  rw [hhatch, hpump]
  simp

end Proofs

end MbedBlocks
