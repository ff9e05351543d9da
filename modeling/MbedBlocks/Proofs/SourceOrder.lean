import MbedBlocks.Proofs.DeclarationClosure

/-!
# The order of source lines

Every part of a source text but the last ends its lines, so each line of the text belongs to one
part, and the parts follow each other: functions, then declarations, then setup and loop. What setup
and loop refer to is declared above them. Functions stand above the declarations, so what a callback
refers to is declared below it.
-/

namespace MbedBlocks.Text

/-- No line is left open at the end of the text. -/
def LinesEnd (text : String) : Prop := text = "" ∨ ∃ start, text = start ++ "\n"

lemma linesEnd_empty : LinesEnd "" := .inl rfl

lemma linesEnd_newline (start : String) : LinesEnd (start ++ "\n") := .inr ⟨start, rfl⟩

/-- The end of a text decides. -/
lemma linesEnd_closing (start : String) {closing : String}
    (h : closing.toList.getLast? = some '\n') : LinesEnd (start ++ closing) := by
  obtain ⟨front, hfront⟩ := List.getLast?_eq_some_iff.mp h
  refine .inr ⟨start ++ String.ofList front, String.toList_inj.mp ?_⟩
  simp [hfront]

lemma lines_ne_nil {text : List Char} (h : text ≠ []) : lines text ≠ [] := by
  cases text with
  | nil => exact absurd rfl h
  | cons c rest =>
    unfold lines
    split
    · exact List.cons_ne_nil _ _
    · split <;> exact List.cons_ne_nil _ _

/-- What is put before a text on the same line joins its first line. -/
lemma lines_opening {opening text line : List Char} {more : List (List Char)}
    (hopening : '\n' ∉ opening) (h : lines text = line :: more) :
    lines (opening ++ text) = (opening ++ line) :: more := by
  induction opening with
  | nil => exact h
  | cons c opening ih =>
    obtain ⟨hc, hrest⟩ := not_or.mp (mt List.mem_cons.mpr hopening)
    rw [List.cons_append, lines, if_neg (Ne.symm hc), ih hrest]
    rfl

lemma lines_append_newline (start rest : List Char) :
    lines (start ++ '\n' :: rest) = lines (start ++ ['\n']) ++ lines rest := by
  induction start with
  | nil => simp [lines]
  | cons c start ih =>
    by_cases hc : c = '\n'
    · simp [lines, hc, ih]
    · -- The line of `c` goes on, at least to the line feed.
      have hopen : lines (start ++ ['\n']) ≠ [] := lines_ne_nil (by simp)
      obtain ⟨line, more, hlines⟩ := List.exists_cons_of_ne_nil hopen
      simp [lines, hc, ih, hlines]

lemma lines_append {s : String} (hs : LinesEnd s) (t : String) :
    lines (s ++ t).toList = lines s.toList ++ lines t.toList := by
  rcases hs with rfl | ⟨start, rfl⟩
  · simp [lines]
  · have hsplit := lines_append_newline start.toList t.toList
    simpa using hsplit

lemma lines_join_append {texts : List String} (h : ∀ t ∈ texts, LinesEnd t) (last : String) :
    lines (String.join texts ++ last).toList =
      texts.flatMap (fun t => lines t.toList) ++ lines last.toList := by
  induction texts with
  | nil => simp
  | cons t rest ih =>
    have hrest := ih fun u hu => h u (List.mem_cons_of_mem t hu)
    rw [String.join_cons, String.append_assoc, lines_append (h t List.mem_cons_self), hrest,
      List.flatMap_cons, List.append_assoc]

end MbedBlocks.Text

namespace MbedBlocks

open Text (LinesEnd linesEnd_empty linesEnd_newline)

/-- Where a source line comes from: functions and declarations are told apart by their texts. -/
inductive Part where
  | opening
  | function (text : String)
  | declaration (text : String)
  | gap
  | body
deriving DecidableEq, Repr

def Part.rank : Part → Nat
  | opening => 0
  | function _ => 1
  | declaration _ => 2
  | gap => 3
  | body => 4

namespace Program

def globalParts (p : Program) : List (Part × String) :=
  (.opening, p.banner ++ p.includeLines) ::
    (p.sections.functions.map fun text => (.function text, text ++ "\n\n")) ++
    (p.sections.declarations.map fun text => (.declaration text, text ++ "\n")) ++
    [(.gap, if p.sections.declarations.isEmpty then "" else "\n")]

def parts (p : Program) : List (Part × String) := p.globalParts ++ [(.body, p.mainLines)]

/-- The lines of the source text, each with the part it comes from. -/
def sourceLines (p : Program) : List (Part × String) :=
  p.parts.flatMap fun x => (Text.lines x.2.toList).map fun line => (x.1, String.ofList line)

lemma render_eq_join (p : Program) :
    p.render = String.join (p.globalParts.map (·.2)) ++ p.mainLines := by
  have hdeclarations : p.declarationLines = String.join (p.sections.declarations.map (· ++ "\n")) ++
      (if p.sections.declarations.isEmpty then "" else "\n") := by
    unfold declarationLines
    split
    · next hempty =>
      rw [List.isEmpty_iff.mp hempty]
      rfl
    · rfl
  simp [render, globalParts, functionLines, hdeclarations, Function.comp_def, String.append_assoc]

lemma linesEnd_globalParts (p : Program) : ∀ t ∈ p.globalParts.map (·.2), LinesEnd t := by
  have hopening : LinesEnd (p.banner ++ p.includeLines) := by
    unfold includeLines
    rw [← String.append_assoc]
    exact linesEnd_newline _
  have hfunction (text : String) : LinesEnd (text ++ "\n\n") :=
    .inr ⟨text ++ "\n", by rw [String.append_assoc]; rfl⟩
  have hgap : LinesEnd (if p.sections.declarations = [] then "" else "\n") := by
    split
    · exact linesEnd_empty
    · exact linesEnd_newline ""
  intro t ht
  simp only [globalParts, List.cons_append, List.map_cons, List.map_append, List.map_map,
    List.map_nil, List.mem_cons, List.mem_append, List.mem_map, List.not_mem_nil,
    or_false, Function.comp_apply, List.isEmpty_iff] at ht
  rcases ht with rfl | (⟨text, -, rfl⟩ | ⟨text, -, rfl⟩) | rfl
  · exact hopening
  · exact hfunction text
  · exact linesEnd_newline text
  · exact hgap

/-- No line is shared by two parts. -/
theorem texts_sourceLines (p : Program) :
    p.sourceLines.map (·.2.toList) = Text.lines p.render.toList := by
  rw [render_eq_join, Text.lines_join_append p.linesEnd_globalParts]
  simp [sourceLines, parts, List.map_flatMap, List.flatMap_map, Function.comp_def]

lemma ranks_parts (p : Program) :
    p.parts.map (·.1.rank) = 0 :: (List.replicate p.sections.functions.length 1 ++
      (List.replicate p.sections.declarations.length 2 ++ [3, 4])) := by
  simp [parts, globalParts, Part.rank, Function.comp_def, List.map_const']

lemma pairwise_parts (p : Program) : p.parts.Pairwise fun a b => a.1.rank ≤ b.1.rank := by
  have hranks : (p.parts.map (·.1.rank)).Pairwise (· ≤ ·) := by
    rw [ranks_parts]
    simp only [List.pairwise_cons, List.pairwise_append, List.pairwise_replicate, List.Pairwise.nil]
    grind
  exact List.pairwise_map.mp hranks

lemma pairwise_sourceLines (p : Program) :
    p.sourceLines.Pairwise fun a b => a.1.rank ≤ b.1.rank := by
  refine List.pairwise_flatMap.mpr ⟨fun x _ => ?_, p.pairwise_parts.imp fun {x y} hxy => ?_⟩
  · refine List.pairwise_map.mpr (List.pairwise_of_forall fun _ _ => ?_)
    exact Nat.le_refl x.1.rank
  · intro a ha b hb
    obtain ⟨line, -, rfl⟩ := List.mem_map.mp ha
    obtain ⟨line', -, rfl⟩ := List.mem_map.mp hb
    exact hxy

lemma index_lt_of_rank_lt (p : Program) {i j : Nat} {x y : Part × String}
    (hx : p.sourceLines[i]? = some x) (hy : p.sourceLines[j]? = some y)
    (hrank : x.1.rank < y.1.rank) : i < j := by
  obtain ⟨hi, rfl⟩ := List.getElem?_eq_some_iff.mp hx
  obtain ⟨hj, rfl⟩ := List.getElem?_eq_some_iff.mp hy
  rcases Nat.lt_trichotomy i j with hlt | rfl | hlt
  · exact hlt
  · exact absurd hrank (Nat.lt_irrefl _)
  · -- Ranks do not fall along the lines.
    have hle := List.pairwise_iff_getElem.mp p.pairwise_sourceLines j i hj hi hlt
    omega

lemma mem_parts_function {p : Program} {text : String} (h : text ∈ p.sections.functions) :
    (.function text, text ++ "\n\n") ∈ p.parts := by
  simp [parts, globalParts, h]

lemma mem_parts_declaration {p : Program} {text : String} (h : text ∈ p.sections.declarations) :
    (.declaration text, text ++ "\n") ∈ p.parts := by
  simp [parts, globalParts, h]

lemma mem_parts_body (p : Program) : (.body, p.mainLines) ∈ p.parts := by
  simp [parts]

lemma exists_index {p : Program} {part : Part} {text : String} {line : List Char}
    (h : (part, text) ∈ p.parts) (hline : line ∈ Text.lines text.toList) :
    ∃ i : Nat, p.sourceLines[i]? = some (part, String.ofList line) := by
  refine List.mem_iff_getElem?.mp (List.mem_flatMap.mpr ⟨_, h, ?_⟩)
  exact List.mem_map_of_mem hline

end Program

namespace Proofs

/-- Line `i` belongs to a declaration of the object. -/
def DeclaresAt (board : Board) (p : Program) (object : String) (i : Nat) : Prop :=
  ∃ (q : Peripheral) (s text line : String), q.object board s = object ∧ q.Declares board s text ∧
    p.sourceLines[i]? = some (.declaration text, line)

def Contains (part text : String) : Prop := part.toList <:+: text.toList

/-- Line `j` belongs to the part and refers to the object. -/
def RefersAt (p : Program) (object : String) (part : Part) (j : Nat) : Prop :=
  ∃ line, p.sourceLines[j]? = some (part, line) ∧ Contains object line

/-- Lines of the chosen parts refer only to objects that are declared above them. -/
def DeclaredAbove (board : Board) (p : Program) (chosen : Part → Prop) : Prop :=
  ∀ object i j part, DeclaresAt board p object i → RefersAt p object part j → chosen part → i < j

section Order

variable {board : Board} {p : Program} {object : String}

lemma declaredAbove_body : DeclaredAbove board p (· = .body) := by
  rintro object i j part ⟨q, s, text, line, -, -, hi⟩ ⟨line', hj, -⟩ rfl
  exact p.index_lt_of_rank_lt hi hj (by decide : 2 < 4)

lemma function_above_declaration {i j : Nat} {text : String} (hi : DeclaresAt board p object i)
    (hj : RefersAt p object (.function text) j) : j < i := by
  obtain ⟨q, s, text', line, -, -, hi⟩ := hi
  obtain ⟨line', hj, -⟩ := hj
  exact p.index_lt_of_rank_lt hj hi (by decide : 1 < 2)

lemma exists_declaresAt {q : Peripheral} {s text : String}
    (htext : text ∈ p.sections.declarations) (hdeclares : q.Declares board s text) :
    ∃ i, DeclaresAt board p (q.object board s) i := by
  have hlines : Text.lines (text ++ "\n").toList ≠ [] := Text.lines_ne_nil (by simp)
  obtain ⟨line, hline⟩ := List.exists_mem_of_ne_nil _ hlines
  obtain ⟨i, hi⟩ := Program.exists_index (Program.mem_parts_declaration htext) hline
  exact ⟨i, q, s, text, _, rfl, hdeclares, hi⟩

lemma exists_refersAt {part : Part} {text line : String} (h : (part, text) ∈ p.parts)
    (hline : line.toList ∈ Text.lines text.toList) (hcontains : Contains object line) :
    ∃ j, RefersAt p object part j := by
  obtain ⟨j, hj⟩ := Program.exists_index h hline
  rw [String.ofList_toList] at hj
  exact ⟨j, line, hj, hcontains⟩

end Order

/-- Each declaration of a program declares an object, above all lines of setup and loop that refer
to the object and below all lines of functions that do. -/
theorem declared_above_body (g : Graph) (board : Board) (options : Options) :
    let p := (Generator.new g board options).program
    p.sourceLines.map (·.2.toList) = Text.lines p.render.toList ∧
    (∀ text ∈ p.sections.declarations, ∃ (q : Peripheral) (s : String),
      q.Declares board s text ∧ ∃ i, DeclaresAt board p (q.object board s) i) ∧
    DeclaredAbove board p (· = .body) ∧
    ∀ object i j text, DeclaresAt board p object i → RefersAt p object (.function text) j →
      j < i := by
  intro p
  refine ⟨p.texts_sourceLines, fun text htext => ?_, declaredAbove_body,
    fun object i j text => function_above_declaration⟩
  have hentry : text ∈ (finalRegistry g board options.indent).declarations.values := by
    rw [sections_program] at htext
    exact htext
  obtain ⟨entry, hmem, rfl⟩ := List.mem_map.mp hentry
  obtain ⟨q, s, -, hdeclares⟩ := finalRegistry_holds.declarations _ hmem
  exact ⟨q, s, hdeclares, exists_declaresAt htext hdeclares⟩

/-- The mode of the button is set below the declaration of the button. -/
theorem declared_above_body_button :
    let p := (Generator.new buttonGraph Board.Nucleo.profile {}).program
    ∃ i j, DeclaresAt Board.Nucleo.profile p "intrPC_13" i ∧ RefersAt p "intrPC_13" .body j ∧
      i < j := by
  intro p
  have hdeclaration : "InterruptIn intrPC_13(PC_13);" ∈ p.sections.declarations := by decide +kernel
  have hline : "  intrPC_13.mode(PullNone);\n".toList ∈ Text.lines p.mainLines.toList := by
    decide +kernel
  have hcontains : Contains "intrPC_13" "  intrPC_13.mode(PullNone);\n" :=
    ⟨"  ".toList, ".mode(PullNone);\n".toList, rfl⟩
  obtain ⟨i, hi⟩ := exists_declaresAt (q := .interruptIn) hdeclaration
    (⟨"InterruptIn ", "(PC_13);", rfl, rfl, rfl⟩ :
      Peripheral.interruptIn.Declares Board.Nucleo.profile "PC_13" _)
  obtain ⟨j, hj⟩ := exists_refersAt p.mem_parts_body hline hcontains
  obtain ⟨-, -, habove, -⟩ := declared_above_body buttonGraph Board.Nucleo.profile {}
  exact ⟨i, j, hi, hj, habove _ i j _ hi hj rfl⟩

/-- The function that a press of the button calls. -/
def buttonCallback : String :=
  "void intrPC_13_interrupt_fun() \x7b\n  myDigitalOutPA_5.write(LOW);\n\x7d"

/-- It writes to the LED above the declaration of the LED. -/
theorem callback_above_declaration :
    ¬ DeclaredAbove Board.Nucleo.profile (Generator.new buttonGraph Board.Nucleo.profile {}).program
      fun part => part = .body ∨ ∃ text, part = .function text := by
  intro habove
  have hdeclaration : "DigitalOut myDigitalOutPA_5(PA_5);" ∈
      (Generator.new buttonGraph Board.Nucleo.profile {}).program.sections.declarations := by
    rw [sections_program]
    decide +kernel
  have hfunction : buttonCallback ∈
      (Generator.new buttonGraph Board.Nucleo.profile {}).program.sections.functions := by
    rw [sections_program]
    decide +kernel
  have hline : "  myDigitalOutPA_5.write(LOW);\n".toList ∈
      Text.lines (buttonCallback ++ "\n\n").toList := by decide
  have hcontains : Contains "myDigitalOutPA_5" "  myDigitalOutPA_5.write(LOW);\n" :=
    ⟨"  ".toList, ".write(LOW);\n".toList, rfl⟩
  obtain ⟨i, hi⟩ := exists_declaresAt (q := .digitalOut) hdeclaration
    (⟨"DigitalOut ", "(PA_5);", rfl, rfl, rfl⟩ :
      Peripheral.digitalOut.Declares Board.Nucleo.profile "PA_5" _)
  obtain ⟨j, hj⟩ := exists_refersAt (Program.mem_parts_function hfunction) hline hcontains
  have hlt : i < j := habove _ i j _ hi hj (.inr ⟨buttonCallback, rfl⟩)
  have hgt : j < i := function_above_declaration hi hj
  omega

end Proofs

end MbedBlocks
