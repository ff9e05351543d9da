import MbedBlocks.Proofs.LexicalTexts
import MbedBlocks.Proofs.SourceOrder

/-!
# Laws of indentation

A margin without line feeds is put before whole lines, so the lines of an indented text are the
lines of the text, each with the margin unless it is blank. Margins add up, and texts that end their
lines are indented one after the other.
-/

namespace MbedBlocks.Text

/-! ### Lists of lines -/

/-- The lines of some text: each is ended by its only line feed, but the last may be left open. -/
inductive IsLines : List (List Char) → Prop where
  | nil : IsLines []
  | last {line : List Char} : line ≠ [] → '\n' ∉ line → IsLines [line]
  | cons {body : List Char} {more : List (List Char)} : '\n' ∉ body → IsLines more →
    IsLines ((body ++ ['\n']) :: more)

lemma isLines_lines (text : List Char) : IsLines (lines text) := by
  induction text with
  | nil => exact .nil
  | cons c text ih =>
    rw [lines]
    split_ifs with hc
    · subst hc
      exact IsLines.cons (List.not_mem_nil : '\n' ∉ []) ih
    · have hnew {body : List Char} (hbody : '\n' ∉ body) : '\n' ∉ c :: body := by
        simp [Ne.symm hc, hbody]
      generalize lines text = L at ih
      cases ih with
      | nil => exact .last (List.cons_ne_nil _ _) (hnew List.not_mem_nil)
      | last _ hline => exact .last (List.cons_ne_nil _ _) (hnew hline)
      | cons hbody hmore => exact .cons (hnew hbody) hmore

/-- A list of lines is the lines of the text that it concatenates to. -/
theorem IsLines.lines_flatten {L : List (List Char)} (h : IsLines L) : lines L.flatten = L := by
  induction h with
  | nil => rfl
  | @last line hne hline =>
    obtain ⟨start, c, rfl⟩ := (List.eq_nil_or_concat' line).resolve_left hne
    obtain ⟨hstart, hc⟩ := not_or.mp (mt List.mem_append.mpr hline)
    have hopen : lines [c] = [[c]] := by
      rw [lines, if_neg fun h => hc (List.mem_singleton.mpr h.symm)]
      rfl
    rw [List.flatten_singleton]
    exact lines_opening hstart hopen
  | @cons body more hbody _ ih =>
    have hended : lines ('\n' :: more.flatten) = ['\n'] :: more := by
      rw [lines, if_pos rfl, ih]
    rw [List.flatten_cons, List.append_assoc]
    exact lines_opening hbody hended

/-! ### Lines with a margin -/

variable {margin : List Char}

lemma indentLine_indentLine (outer inner line : List Char) :
    indentLine outer (indentLine inner line) = indentLine (outer ++ inner) line := by
  by_cases hblank : line.all isBlank
  · simp [indentLine, hblank]
  · have hinner : ¬(inner ++ line).all isBlank := by
      rw [List.all_append, Bool.and_eq_true]
      exact fun h => hblank h.2
    simp [indentLine, hblank, hinner]

lemma indentLine_nil (line : List Char) : indentLine [] line = line := ite_self _

/-- A margin leaves the end of a line as it is. -/
lemma getLast?_indentLine (line : List Char) :
    (indentLine margin line).getLast? = line.getLast? := by
  unfold indentLine
  split_ifs with hblank
  · rfl
  · have hne : line ≠ [] := by
      rintro rfl
      exact hblank rfl
    rw [List.getLast?_append_of_ne_nil _ hne]

lemma IsLines.map_indentLine {L : List (List Char)} (h : IsLines L) (hmargin : '\n' ∉ margin) :
    IsLines (L.map (indentLine margin)) := by
  have hnew {body : List Char} (hbody : '\n' ∉ body) : '\n' ∉ margin ++ body := by
    simp [hmargin, hbody]
  induction h with
  | nil => exact .nil
  | @last line hne hline =>
    rw [List.map_singleton, indentLine]
    split_ifs
    · exact .last hne hline
    · exact .last (List.append_ne_nil_of_right_ne_nil _ hne) (hnew hline)
  | cons hbody _ ih =>
    rw [List.map_cons, indentLine]
    split_ifs
    · exact .cons hbody ih
    · rw [← List.append_assoc]
      exact .cons (hnew hbody) ih

/-! ### Texts with a margin -/

/-- A text is indented line by line. -/
theorem lines_indentLines (code : String) {p : String} (hp : '\n' ∉ p.toList) :
    lines (indentLines code p).toList = (lines code.toList).map (indentLine p.toList) := by
  rw [indentLines, String.toList_ofList, List.flatMap_def]
  exact ((isLines_lines code.toList).map_indentLine hp).lines_flatten

theorem indentLines_indentLines (code q : String) {p : String} (hp : '\n' ∉ p.toList) :
    indentLines (indentLines code p) q = indentLines code (q ++ p) := by
  have hline : (fun line => indentLine q.toList (indentLine p.toList line)) =
      indentLine (q ++ p).toList := by
    funext line
    rw [indentLine_indentLine, String.toList_append]
  rw [indentLines, lines_indentLines code hp, List.flatMap_map, hline]
  rfl

theorem indentLines_append {a : String} (ha : LinesEnd a) (b p : String) :
    indentLines (a ++ b) p = indentLines a p ++ indentLines b p := by
  rw [indentLines, lines_append ha, List.flatMap_append, String.ofList_append]
  rfl

lemma linesEnd_iff {text : String} :
    LinesEnd text ↔ text = "" ∨ text.toList.getLast? = some '\n' := by
  refine or_congr_right ⟨?_, fun h => ?_⟩
  · rintro ⟨start, rfl⟩
    simp
  · have hclosing := linesEnd_closing "" h
    rw [String.empty_append] at hclosing
    rcases hclosing with rfl | hstart
    · cases h
    · exact hstart

lemma linesEnd_indentLines {code : String} (h : LinesEnd code) (p : String) :
    LinesEnd (indentLines code p) := by
  have hlast (L : List (List Char)) :
      (L.flatMap (indentLine p.toList)).getLast? = L.flatten.getLast? := by
    induction L with
    | nil => rfl
    | cons line L ih =>
      rw [List.flatMap_cons, List.flatten_cons, List.getLast?_append, List.getLast?_append, ih,
        getLast?_indentLine]
  rw [linesEnd_iff] at h ⊢
  rcases h with rfl | h
  · exact .inl rfl
  · rw [indentLines, String.toList_ofList, hlast, Lexical.flatten_lines]
    exact .inr h

/-- What a margin does to a line: a blank line stays, and any other has the margin before it. -/
def Indented (margin before after : List Char) : Prop :=
  if before.all isBlank then after = before else after = margin ++ before

lemma forall₂_indented (code : String) {p : String} (hp : '\n' ∉ p.toList) :
    List.Forall₂ (Indented p.toList) (lines code.toList) (lines (indentLines code p).toList) := by
  rw [lines_indentLines code hp, List.forall₂_map_right_iff]
  refine List.forall₂_same.mpr fun line _ => ?_
  unfold Indented indentLine
  split_ifs <;> rfl

/-! ### Texts in texts -/

lemma linesEnd_append {s t : String} (hs : LinesEnd s) (ht : LinesEnd t) : LinesEnd (s ++ t) := by
  rcases ht with rfl | ⟨start, rfl⟩
  · rwa [String.append_empty]
  · exact .inr ⟨s ++ start, (String.append_assoc).symm⟩

lemma linesEnd_join {texts : List String} (h : ∀ t ∈ texts, LinesEnd t) :
    LinesEnd (String.join texts) := by
  induction texts with
  | nil => exact linesEnd_empty
  | cons t texts ih =>
    rw [String.join_cons]
    exact linesEnd_append (h t List.mem_cons_self) (ih fun u hu => h u (List.mem_cons_of_mem t hu))

/-- The lines of a text that ends them, in a text that starts a new line for it. -/
lemma lines_infix {opening body : String} (hopening : LinesEnd opening) (hbody : LinesEnd body)
    (closing : String) :
    lines body.toList <:+: lines (opening ++ body ++ closing).toList := by
  rw [String.append_assoc, lines_append hopening, lines_append hbody, ← List.append_assoc]
  exact List.infix_append _ _ _

/-- A text in braces starts a new line. -/
lemma lines_braces (opening closing : String) {body : String} (hbody : LinesEnd body) :
    lines body.toList <:+: lines (opening ++ Code.braces body ++ closing).toList := by
  have hsplit : opening ++ Code.braces body ++ closing =
      opening ++ "\x7b\n" ++ body ++ ("\x7d" ++ closing) := by
    simp only [Code.braces, String.append_assoc]
  rw [hsplit]
  exact lines_infix (linesEnd_closing opening rfl) hbody _

lemma lines_functionText (returns name : String) (params : List String) {body : String}
    (hbody : LinesEnd body) :
    lines body.toList <:+: lines (Code.functionText returns name params body).toList := by
  have hlines := lines_braces (returns ++ " " ++ name ++ "(" ++ ", ".intercalate params ++ ") ") ""
    hbody
  rwa [String.append_empty] at hlines

/-- Each piece stands in a text that is joined of pieces. -/
lemma exists_intercalate_eq (separator : String) {piece : String} {pieces : List String}
    (h : piece ∈ pieces) :
    ∃ before after, separator.intercalate pieces = before ++ piece ++ after := by
  induction pieces with
  | nil => cases h
  | cons first pieces ih =>
    rcases List.mem_cons.mp h with rfl | h
    · cases pieces with
      | nil => exact ⟨"", "", by simp⟩
      | cons second pieces =>
        exact ⟨"", separator ++ separator.intercalate (second :: pieces), by
          simp [String.append_assoc]⟩
    · obtain ⟨before, after, hjoin⟩ := ih h
      refine ⟨first ++ separator ++ before, after, ?_⟩
      rw [String.intercalate_cons_of_ne_nil (List.ne_nil_of_mem h), hjoin]
      simp only [String.append_assoc]

lemma lines_join {texts : List String} (h : ∀ t ∈ texts, LinesEnd t) :
    lines (String.join texts).toList = texts.flatMap fun t => lines t.toList := by
  have hjoin := lines_join_append h ""
  simpa [lines] using hjoin

end MbedBlocks.Text
