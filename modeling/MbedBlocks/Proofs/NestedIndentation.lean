import MbedBlocks.Proofs.ContextIndependence
import MbedBlocks.Proofs.LexicalForm
import MbedBlocks.Proofs.StatementInputs

/-!
# Nested indentation

The chain in a statement input is indented once, and margins add up. So a line is indented as often
as there are inputs around it in the text where it stands. A function is such a text of its own: in
the body of a function the inputs around the block that defines it do not count. In the program,
setup is one level inside `main`, and the loop two.
-/

namespace MbedBlocks.Proofs

open Code (Fragment)
open Lexical (siteWithin)
open MbedBlocks.Graph (statementText)
open Text (LinesEnd indentLine indentLines lines linesEnd_closing linesEnd_empty
  lines_functionText lines_indentLines lines_infix lines_join)

/-! ### Copies of a margin -/

def copies (n : Nat) (indent : String) : String := String.join (List.replicate n indent)

lemma copies_add (m n : Nat) (indent : String) :
    copies (m + n) indent = copies m indent ++ copies n indent := by
  rw [copies, ← List.replicate_append_replicate, String.join_append, copies, copies]

/-- The lines of the code stand in the text one after the other, with so many copies of the margin
before each that is not blank. -/
def StandsIn (indent : String) (n : Nat) (code text : String) : Prop :=
  (lines code.toList).map (indentLine (copies n indent).toList) <:+: lines text.toList

instance (indent : String) (n : Nat) (code text : String) :
    Decidable (StandsIn indent n code text) :=
  inferInstanceAs (Decidable (_ <:+: _))

section StandsIn

variable {indent code text more : String} {m n : Nat}

lemma standsIn_self : StandsIn indent 0 code code := by
  have hmargin : indentLine (copies 0 indent).toList = id := funext Text.indentLine_nil
  rw [StandsIn, hmargin, List.map_id]

lemma StandsIn.mono (h : StandsIn indent n code text)
    (hmore : lines text.toList <:+: lines more.toList) : StandsIn indent n code more :=
  List.IsInfix.trans h hmore

/-- Margins add up. -/
lemma StandsIn.trans (h : StandsIn indent n code text) (hmore : StandsIn indent m text more) :
    StandsIn indent (m + n) code more := by
  have hmargin : indentLine (copies (m + n) indent).toList =
      indentLine (copies m indent).toList ∘ indentLine (copies n indent).toList := by
    funext line
    rw [Function.comp_apply, Text.indentLine_indentLine, copies_add, String.toList_append]
  rw [StandsIn, hmargin, ← List.map_map]
  exact (h.map _).trans hmore

lemma standsIn_indentLines (hindent : '\n' ∉ indent.toList) (code : String) (n : Nat) :
    StandsIn indent n code (indentLines code (copies n indent)) := by
  have hcopies : '\n' ∉ (copies n indent).toList := by simp [copies, hindent]
  rw [StandsIn, lines_indentLines code hcopies]

@[simp] lemma copies_one (indent : String) : copies 1 indent = indent := by simp [copies]

lemma copies_two (indent : String) : copies 2 indent = indent ++ indent := by
  rw [copies_add 1 1, copies_one]

end StandsIn

/-! ### Nested inputs -/

section Walk

variable {g : Graph} {board : Board} {indent : String} {busy busy' : List String} {b c d : Block}
  {path : List Outlet}

/-- The statement lines of a block that is emitted while those in `busy` are in progress. -/
def codeWithin (g : Graph) (board : Board) (indent : String) (busy : List String) (b : Block) :
    String :=
  statementText (g.emitWithin board indent busy b).result

lemma codeWithin_of_kind {k : Kind} (hb : b.id ∉ busy) (hk : b.kind? = some k) :
    codeWithin g board indent busy b =
      statementText (some ((siteWithin g board indent busy b).emit (k.emit g b)).result) := by
  rw [codeWithin, Graph.emitWithin_of_kind hb hk]
  rfl

lemma linesEnd_codeWithin : LinesEnd (codeWithin g board indent busy b) := by
  by_cases hb : b.id ∈ busy
  · rw [codeWithin, Graph.emitWithin_of_mem hb]
    exact linesEnd_empty
  · cases hk : b.kind? with
    | none =>
      rw [codeWithin, Graph.emitWithin_of_unlisted hb hk]
      exact linesEnd_empty
    | some k =>
      rw [codeWithin_of_kind hb hk]
      exact linesEnd_emit g k

section Chain

variable {blocks : List Block}

lemma linesEnd_of_mem_map {text : String}
    (h : text ∈ blocks.map (codeWithin g board indent busy)) : LinesEnd text := by
  obtain ⟨c, -, rfl⟩ := List.mem_map.mp h
  exact linesEnd_codeWithin

lemma linesEnd_chain : LinesEnd (String.join (blocks.map (codeWithin g board indent busy))) :=
  Text.linesEnd_join fun _ => linesEnd_of_mem_map

/-- Each block of a chain keeps its lines. -/
lemma lines_chain (hc : c ∈ blocks) :
    lines (codeWithin g board indent busy c).toList <:+:
      lines (String.join (blocks.map (codeWithin g board indent busy))).toList := by
  rw [lines_join fun _ => linesEnd_of_mem_map, List.flatMap_def]
  exact List.infix_of_mem_flatten (List.mem_map_of_mem (List.mem_map_of_mem hc))

end Chain

lemma result_body {socket first : String} (hfirst : b.statements.get? socket = some first) :
    ((siteWithin g board indent busy b).body socket).result =
      indentLines (String.join ((g.chain first).map (codeWithin g board indent (b.id :: busy))))
        indent := by
  change (g.socketBody (g.emitter board indent (b.id :: busy)) indent b socket).result = _
  rw [Graph.socketBody, hfirst]
  simp only [Graph.chainCode, Emit.result_bind, result_mapM, Emit.result_pure, List.map_map]
  exact congrArg (fun texts => indentLines (String.join texts) indent)
    (List.attach_map_val (f := codeWithin g board indent (b.id :: busy)))

lemma effects_mapM {α β : Type} (f : α → Emit β) {l : List α} {a : α} (ha : a ∈ l) :
    (f a).effects ⊆ (l.mapM f).effects := by
  induction l with
  | nil => cases ha
  | cons first l ih =>
    rw [List.mapM_cons, Emit.effects_bind, Emit.effects_bind]
    rcases List.mem_cons.mp ha with rfl | ha
    · exact List.subset_append_left _ _
    · exact List.subset_append_of_subset_right _ (List.subset_append_of_subset_left _ (ih ha))

lemma effects_body {socket first : String} (hfirst : b.statements.get? socket = some first)
    (hc : c ∈ g.chain first) :
    (g.emitWithin board indent (b.id :: busy) c).effects ⊆
      ((siteWithin g board indent busy b).body socket).effects := by
  change _ ⊆ (g.socketBody (g.emitter board indent (b.id :: busy)) indent b socket).effects
  rw [Graph.socketBody, hfirst]
  simp only [Graph.chainCode, Emit.effects_bind, Emit.effects_pure, List.append_nil]
  exact effects_mapM
    (fun c : { c // c ∈ g.chain first } =>
      g.emitter board indent (b.id :: busy) c.1 (Graph.mem_of_mem_chain c.2))
    (List.mem_attach _ ⟨c, hc⟩)

/-- The block `d` is emitted inside `b`, through inputs that blocks read and that go to the outlets
of the path, the outermost first. -/
inductive Inside (g : Graph) (board : Board) (indent : String) :
    List String → Block → List Outlet → List String → Block → Prop where
  | here (busy : List String) (b : Block) : Inside g board indent busy b [] busy b
  | input {busy busy' : List String} {b c d : Block} {k : Kind} {socket first : String}
    {path : List Outlet} (hb : b.id ∉ busy) (hk : b.kind? = some k)
    (hread : socket ∈ inputsRead (siteWithin g board indent busy b) (k.emit g b))
    (hfirst : b.statements.get? socket = some first) (hc : c ∈ g.chain first)
    (hinside : Inside g board indent (b.id :: busy) c path busy' d) :
    Inside g board indent busy b (outlet k :: path) busy' d

/-- The inputs that a block reads are those of its kind. -/
lemma Inside.enter {k : Kind} {socket first : String} (hb : b.id ∉ busy) (hk : b.kind? = some k)
    (hsocket : socket ∈ statementInputs b k) (hfirst : b.statements.get? socket = some first)
    (hc : c ∈ g.chain first) (h : Inside g board indent (b.id :: busy) c path busy' d) :
    Inside g board indent busy b (outlet k :: path) busy' d := by
  refine .input hb hk ?_ hfirst hc h
  rwa [inputsRead_emit]

/-- Step: what is read in an input is indented once, and stands in the code of the block or in a
function that the block defines. -/
lemma standsIn_input (hindent : '\n' ∉ indent.toList) {k : Kind} {socket first : String}
    (hb : b.id ∉ busy) (hk : b.kind? = some k)
    (hread : socket ∈ inputsRead (siteWithin g board indent busy b) (k.emit g b))
    (hfirst : b.statements.get? socket = some first) (hc : c ∈ g.chain first) :
    (outlet k = .inPlace → StandsIn indent 1 (codeWithin g board indent (b.id :: busy) c)
      (codeWithin g board indent busy b)) ∧
    (outlet k = .function → ∃ name text,
      .register (.function name text) ∈ (g.emitWithin board indent busy b).effects ∧
      StandsIn indent 1 (codeWithin g board indent (b.id :: busy) c) text) := by
  have hbody : StandsIn indent 1 (codeWithin g board indent (b.id :: busy) c)
      ((siteWithin g board indent busy b).body socket).result := by
    have hindented := standsIn_indentLines hindent
      (String.join ((g.chain first).map (codeWithin g board indent (b.id :: busy)))) 1
    rw [copies_one] at hindented
    rw [result_body hfirst]
    exact (standsIn_self.mono (lines_chain hc)).trans hindented
  have hends : LinesEnd ((siteWithin g board indent busy b).body socket).result := by
    rw [result_body hfirst]
    exact Text.linesEnd_indentLines linesEnd_chain indent
  rw [inputsRead_emit] at hread
  refine ⟨fun hplace => ?_, fun hfunction => ?_⟩
  · rw [codeWithin_of_kind hb hk]
    cases k with
    | language k => exact hbody.mono (lines_in_place hread hends)
    | _ => cases hplace
  · obtain ⟨name, params, hmem⟩ := function_of_input g hfunction hread
    refine ⟨name, _, ?_, hbody.mono (lines_functionText "void" name params hends)⟩
    rw [Graph.emitWithin_of_kind hb hk, Emit.effects_bind]
    exact List.mem_append_left _ (ownRegistrations_subset _ hmem)

/-- What is emitted inside a block is emitted with it. -/
lemma effects_input {k : Kind} {socket first : String} (hb : b.id ∉ busy) (hk : b.kind? = some k)
    (hread : socket ∈ inputsRead (siteWithin g board indent busy b) (k.emit g b))
    (hfirst : b.statements.get? socket = some first) (hc : c ∈ g.chain first) :
    (g.emitWithin board indent (b.id :: busy) c).effects ⊆
      (g.emitWithin board indent busy b).effects := by
  rw [Graph.emitWithin_of_kind hb hk, Emit.effects_bind]
  exact List.subset_append_of_subset_left _
    (List.Subset.trans (effects_body hfirst hc) (effects_of_inputsRead hread))

/-- Run: without a function on the path, each input adds a copy. -/
theorem Inside.standsIn (hindent : '\n' ∉ indent.toList)
    (h : Inside g board indent busy b path busy' d) (hpath : .function ∉ path) :
    StandsIn indent path.length (codeWithin g board indent busy' d)
      (codeWithin g board indent busy b) := by
  induction h with
  | here busy b => exact standsIn_self
  | @input busy busy' b c d k socket first path hb hk hread hfirst hc hinside ih =>
    obtain ⟨hhead, hrest⟩ := not_or.mp (mt List.mem_cons.mpr hpath)
    have hplace : outlet k = .inPlace := by
      cases hk : outlet k with
      | inPlace => rfl
      | function => exact absurd hk.symm hhead
    rw [List.length_cons, Nat.add_comm]
    exact (ih hrest).trans ((standsIn_input hindent hb hk hread hfirst hc).1 hplace)

/-- Run: inside a function, the inputs count from that of the function on. -/
theorem Inside.function_standsIn (hindent : '\n' ∉ indent.toList)
    (h : Inside g board indent busy b path busy' d) {before after : List Outlet}
    (hpath : path = before ++ .function :: after) (hafter : .function ∉ after) :
    ∃ name text, .register (.function name text) ∈ (g.emitWithin board indent busy b).effects ∧
      StandsIn indent (after.length + 1) (codeWithin g board indent busy' d) text := by
  induction h generalizing before with
  | here busy b => simp at hpath
  | @input busy busy' b c d k socket first path hb hk hread hfirst hc hinside ih =>
    cases before with
    | nil =>
      obtain ⟨hfunction, rfl⟩ := List.cons.inj hpath
      obtain ⟨name, text, hmem, hstands⟩ :=
        (standsIn_input hindent hb hk hread hfirst hc).2 hfunction
      rw [Nat.add_comm]
      exact ⟨name, text, hmem, (hinside.standsIn hindent hafter).trans hstands⟩
    | cons outer before =>
      obtain ⟨-, hrest⟩ := List.cons.inj hpath
      obtain ⟨name, text, hmem, hstands⟩ := ih hrest
      exact ⟨name, text, effects_input hb hk hread hfirst hc hmem, hstands⟩

end Walk

/-! ### Setup and loop in the program -/

section Programs

variable {p : Program}

lemma linesEnd_registeredSetup (p : Program) :
    LinesEnd (String.join (p.sections.setup.map fun s => Text.trimEnd s ++ "\n")) := by
  refine Text.linesEnd_join fun t ht => ?_
  obtain ⟨s, -, rfl⟩ := List.mem_map.mp ht
  exact Text.linesEnd_newline _

/-- `main` indents the setup body once. -/
lemma standsIn_setup (hindent : '\n' ∉ p.indent.toList) (hsetup : LinesEnd p.setupBody) :
    StandsIn p.indent (if p.emitMain then 1 else 0) p.setupBody p.mainLines := by
  have hbody : lines p.setupBody.toList <:+: lines p.setupLines.toList := by
    have hlines := lines_infix (linesEnd_registeredSetup p) hsetup ""
    rwa [String.append_empty] at hlines
  have hends : LinesEnd p.setupLines :=
    Text.linesEnd_append (linesEnd_registeredSetup p) hsetup
  rw [Program.mainLines]
  by_cases hmain : p.emitMain = true
  · have hindented := standsIn_indentLines hindent p.setupLines 1
    have hopening : LinesEnd "int main() \x7b\n" := .inr ⟨"int main() \x7b", rfl⟩
    rw [copies_one] at hindented
    rw [if_pos hmain, if_pos hmain]
    refine ((standsIn_self.mono hbody).trans hindented).mono ?_
    simp only [String.append_assoc]
    rw [← String.append_assoc]
    exact lines_infix hopening (Text.linesEnd_indentLines hends _) _
  · have hlines := lines_infix linesEnd_empty hends
      (if p.loopBody = "" then "" else "\n" ++ p.loopBody)
    rw [String.empty_append] at hlines
    rw [if_neg hmain, if_neg hmain]
    exact (standsIn_self.mono hbody).mono hlines

/-- The loop indents the loop body once more. -/
lemma standsIn_loop (hindent : '\n' ∉ p.indent.toList) (hloop : LinesEnd p.loopBody) :
    StandsIn p.indent (if p.emitMain then 2 else 0) p.loopBody p.mainLines := by
  unfold Program.mainLines
  split_ifs with hmain hempty
  · have hindented := standsIn_indentLines hindent p.loopBody 2
    rw [copies_two] at hindented
    refine hindented.mono ?_
    rw [String.append_assoc, String.append_assoc]
    exact lines_infix (linesEnd_closing _ rfl) (Text.linesEnd_indentLines hloop _) _
  · rw [hempty]
    exact standsIn_self.mono List.nil_infix
  · have hlines := lines_infix (Text.linesEnd_newline p.setupLines) hloop ""
    rw [String.append_empty, String.append_assoc] at hlines
    exact standsIn_self.mono hlines

lemma lines_mainLines : lines p.mainLines.toList <:+: lines p.render.toList := by
  rw [Program.render_eq_join, Text.lines_join_append p.linesEnd_globalParts]
  exact (List.suffix_append _ _).isInfix

end Programs

section Compilation

variable {g : Graph} {board : Board} {options : Options} {c d : Block} {path : List Outlet}
  {busy : List String}

lemma Inside.standsIn_render (hindent : '\n' ∉ options.indent.toList)
    (h : Inside g board options.indent [] c path busy d) (hpath : .function ∉ path)
    {blocks : List Block} (hc : c ∈ blocks) {level : Nat}
    (hlevel : StandsIn options.indent level
      (String.join (blocks.map (codeWithin g board options.indent [])))
      (Generator.new g board options).program.mainLines) :
    StandsIn options.indent (level + path.length) (codeWithin g board options.indent busy d)
      (Generator.new g board options).program.render :=
  (((h.standsIn hindent hpath).mono (lines_chain hc)).trans hlevel).mono lines_mainLines

/-- The chains of top blocks are the setup body. -/
lemma Inside.setup_standsIn (hindent : '\n' ∉ options.indent.toList)
    (h : Inside g board options.indent [] c path busy d) (hpath : .function ∉ path)
    (hc : c ∈ g.topBlocks.flatMap (setupChain g)) :
    StandsIn options.indent ((if options.emitMain then 1 else 0) + path.length)
      (codeWithin g board options.indent busy d)
      (Generator.new g board options).program.render := by
  have hbody : (Generator.new g board options).program.setupBody =
      String.join ((g.topBlocks.flatMap (setupChain g)).map
        (codeWithin g board options.indent [])) :=
    congrArg Bodies.setup emitBodies_result
  have hends : LinesEnd (Generator.new g board options).program.setupBody :=
    hbody ▸ linesEnd_chain
  apply h.standsIn_render hindent hpath hc
  rw [← hbody]
  exact standsIn_setup (p := (Generator.new g board options).program) hindent hends

lemma Inside.loop_standsIn (hindent : '\n' ∉ options.indent.toList)
    (h : Inside g board options.indent [] c path busy d) (hpath : .function ∉ path)
    (hc : c ∈ g.topBlocks.flatMap (loopChain g)) :
    StandsIn options.indent ((if options.emitMain then 2 else 0) + path.length)
      (codeWithin g board options.indent busy d)
      (Generator.new g board options).program.render := by
  have hbody : (Generator.new g board options).program.loopBody =
      String.join ((g.topBlocks.flatMap (loopChain g)).map
        (codeWithin g board options.indent [])) :=
    congrArg Bodies.loop emitBodies_result
  have hends : LinesEnd (Generator.new g board options).program.loopBody :=
    hbody ▸ linesEnd_chain
  apply h.standsIn_render hindent hpath hc
  rw [← hbody]
  exact standsIn_loop (p := (Generator.new g board options).program) hindent hends

end Compilation

/-- Indenting twice is indenting by both margins; texts that end their lines are indented one after
the other; an indented text has the lines of the text, where a blank line is unchanged and any other
has the margin before it. A line inside nested inputs that stay in place has one copy of the margin
for each of them, and one or two more in setup and loop. Inside a function it has one for the input
of the function and one for each input within, whatever is around the block that defines it. -/
theorem indentation_counts_inputs :
    (∀ code p q : String, '\n' ∉ p.toList →
      indentLines (indentLines code p) q = indentLines code (q ++ p)) ∧
    (∀ a b p : String, LinesEnd a → indentLines (a ++ b) p = indentLines a p ++ indentLines b p) ∧
    (∀ code p : String, '\n' ∉ p.toList →
      List.Forall₂ (Text.Indented p.toList) (lines code.toList)
        (lines (indentLines code p).toList)) ∧
    ∀ (g : Graph) (board : Board) (options : Options), '\n' ∉ options.indent.toList →
      (∀ busy b path busy' d, Inside g board options.indent busy b path busy' d →
        (.function ∉ path → StandsIn options.indent path.length
          (codeWithin g board options.indent busy' d) (codeWithin g board options.indent busy b)) ∧
        ∀ before after, path = before ++ .function :: after → .function ∉ after →
          ∃ name text,
            .register (.function name text) ∈ (g.emitWithin board options.indent busy b).effects ∧
            StandsIn options.indent (after.length + 1)
              (codeWithin g board options.indent busy' d) text) ∧
      ∀ c path busy d, Inside g board options.indent [] c path busy d → .function ∉ path →
        (c ∈ g.topBlocks.flatMap (setupChain g) →
          StandsIn options.indent ((if options.emitMain then 1 else 0) + path.length)
            (codeWithin g board options.indent busy d)
            (Generator.new g board options).program.render) ∧
        (c ∈ g.topBlocks.flatMap (loopChain g) →
          StandsIn options.indent ((if options.emitMain then 2 else 0) + path.length)
            (codeWithin g board options.indent busy d)
            (Generator.new g board options).program.render) := by
  refine ⟨fun code p q => Text.indentLines_indentLines code q,
    fun a b p ha => Text.indentLines_append ha b p, fun code p => Text.forall₂_indented code, ?_⟩
  intro g board options hindent
  refine ⟨fun busy b path busy' d h => ?_, fun c path busy d h hpath => ?_⟩
  · exact ⟨h.standsIn hindent, fun before after => h.function_standsIn hindent⟩
  · exact ⟨h.setup_standsIn hindent hpath, h.loop_standsIn hindent hpath⟩

def outerLoop : Block :=
  { id := "outer", kind := "controls_whileUntil", statements := Dict.insert {} "DO" "inner" }

def innerLoop : Block :=
  { id := "inner", kind := "controls_whileUntil", statements := Dict.insert {} "DO" "stop" }

def innerTimer : Block :=
  { id := "inner", kind := "ticker_attach", statements := Dict.insert {} "function_body" "stop" }

def stopBlock : Block := { id := "stop", kind := "infinite_loop" }

/-- A loop around another block with the id `inner`, and in that a block that stops the program. -/
def stopInside (inner : Block) : Graph := { blocks := [outerLoop, inner, stopBlock] }

lemma inside_loops :
    Inside (stopInside innerLoop) Board.Nucleo.profile "  " [] outerLoop [.inPlace, .inPlace]
      ["inner", "outer"] stopBlock := by
  refine Inside.enter (k := .language .repetition) List.not_mem_nil rfl (.head _) rfl
    (mem_chain_self rfl : innerLoop ∈ (stopInside innerLoop).chain "inner") ?_
  exact Inside.enter (k := .language .repetition) (by decide) rfl (.head _) rfl
    (mem_chain_self rfl : stopBlock ∈ (stopInside innerLoop).chain "stop") (.here _ _)

lemma inside_timer :
    Inside (stopInside innerTimer) Board.Nucleo.profile "  " [] outerLoop [.inPlace, .function]
      ["inner", "outer"] stopBlock := by
  refine Inside.enter (k := .language .repetition) List.not_mem_nil rfl (.head _) rfl
    (mem_chain_self rfl : innerTimer ∈ (stopInside innerTimer).chain "inner") ?_
  exact Inside.enter (k := .time .ticker) (by decide) rfl (.head _) rfl
    (mem_chain_self rfl : stopBlock ∈ (stopInside innerTimer).chain "stop") (.here _ _)

lemma codeWithin_stop (inner : Block) :
    codeWithin (stopInside inner) Board.Nucleo.profile "  " ["inner", "outer"] stopBlock =
      "while(true);\n" := by
  rw [codeWithin_of_kind (k := .time .halt) (by decide) rfl]
  rfl

theorem indentation_counts_inputs_loops :
    StandsIn "  " 3 "while(true);\n"
      (Generator.new (stopInside innerLoop) Board.Nucleo.profile {}).program.render ∧
    ∃ name text, .register (.function name text) ∈
        ((stopInside innerTimer).emitWithin Board.Nucleo.profile "  " [] outerLoop).effects ∧
      StandsIn "  " 1 "while(true);\n" text := by
  have hindent : '\n' ∉ "  ".toList := by decide
  obtain ⟨-, -, -, hnested⟩ := indentation_counts_inputs
  obtain ⟨-, hprogram⟩ := hnested (stopInside innerLoop) Board.Nucleo.profile {} hindent
  obtain ⟨hwalk, -⟩ := hnested (stopInside innerTimer) Board.Nucleo.profile {} hindent
  rw [← codeWithin_stop innerLoop]
  constructor
  · exact (hprogram _ _ _ _ inside_loops (by decide)).1 (by decide +kernel)
  · rw [codeWithin_stop innerLoop, ← codeWithin_stop innerTimer]
    exact (hwalk _ _ _ _ _ inside_timer).2 [.inPlace] [] rfl (by decide)

/-- The line of a block inside two inputs is indented once and not twice: the inner input makes it
the body of a function. -/
theorem function_input_restarts_indentation :
    Inside (stopInside innerTimer) Board.Nucleo.profile "  " [] outerLoop [.inPlace, .function]
      ["inner", "outer"] stopBlock ∧
    codeWithin (stopInside innerTimer) Board.Nucleo.profile "  " ["inner", "outer"] stopBlock =
      "while(true);\n" ∧
    (Generator.new (stopInside innerTimer) Board.Nucleo.profile {}).program.sections.functions =
      ["void tickinner_handle() \x7b\n  while(true);\n\x7d"] ∧
    (Generator.new (stopInside innerTimer) Board.Nucleo.profile {}).program.setupBody =
      "while (false) \x7b\n  tickinner.attach(&tickinner_handle,1);\n\x7d\n" ∧
    (Generator.new (stopInside innerTimer) Board.Nucleo.profile {}).program.loopBody = "" ∧
    ¬StandsIn "  " 2 "while(true);\n" "void tickinner_handle() \x7b\n  while(true);\n\x7d" :=
  ⟨inside_timer, codeWithin_stop innerTimer, by decide +kernel, by decide +kernel,
    by decide +kernel, by decide +kernel⟩

end MbedBlocks.Proofs
