import MbedBlocks.Proofs.CompletedRuns

/-!
# String literals and what they print

A reader of string literals gives back every text that was made a literal, and stops at the quote
that was put last. A line feed that is added to a literal in its written form is one added to the
text. A printing block with a text block in its socket passes on the literal of the text, since the
script of a text is over at once.
-/

namespace MbedBlocks

namespace Code

/-! ### Reading literals -/

/-- The character that an escape stands for. -/
def unescape? (c : Char) : Option Char :=
  if c = '\\' then some '\\'
  else if c = '"' then some '"'
  else if c = 'n' then some '\n'
  else if c = 't' then some '\t'
  else none

/-- Reads a literal behind its opening quote: the text up to the closing quote, and what follows it.
A line feed must not stand in a literal. -/
def readQuoted? : List Char → Option (List Char × List Char)
  | [] => none
  | c :: rest =>
    if c = '"' then some ([], rest)
    else if c = '\n' then none
    else if c = '\\' then
      match rest with
      | [] => none
      | e :: rest => (unescape? e).bind fun d => (readQuoted? rest).map fun r => (d :: r.1, r.2)
    else (readQuoted? rest).map fun r => (c :: r.1, r.2)

/-- Reads a string literal: the text that it denotes, and what follows it. -/
def readLiteral? : List Char → Option (List Char × List Char)
  | [] => none
  | c :: rest => if c = '"' then readQuoted? rest else none

lemma readQuoted?_quote (rest : List Char) : readQuoted? ('"' :: rest) = some ([], rest) := by
  rw [readQuoted?.eq_def]
  exact if_pos rfl

lemma readQuoted?_plain {c : Char} (hbackslash : c ≠ '\\') (hquote : c ≠ '"')
    (hnewline : c ≠ '\n') (rest : List Char) :
    readQuoted? (c :: rest) = (readQuoted? rest).map fun r => (c :: r.1, r.2) := by
  rw [readQuoted?.eq_def]
  dsimp only
  rw [if_neg hquote, if_neg hnewline, if_neg hbackslash]

/-- Step: the spelling of a character is read as the character. -/
lemma readQuoted?_escapeChar (c : Char) (rest : List Char) :
    readQuoted? (escapeChar c ++ rest) = (readQuoted? rest).map fun r => (c :: r.1, r.2) := by
  unfold escapeChar
  split_ifs with hbackslash hquote hnewline htab
  · subst hbackslash
    rfl
  · subst hquote
    rfl
  · subst hnewline
    rfl
  · subst htab
    rfl
  · exact readQuoted?_plain hbackslash hquote hnewline rest

/-- Run: the spelling of a text is read as the text, up to the closing quote. -/
lemma readQuoted?_flatMap (cs rest : List Char) :
    readQuoted? (cs.flatMap escapeChar ++ '"' :: rest) = some (cs, rest) := by
  induction cs with
  | nil => exact readQuoted?_quote rest
  | cons c cs ih =>
    rw [List.flatMap_cons, List.append_assoc, readQuoted?_escapeChar, ih]
    rfl

theorem readLiteral?_stringLiteral (s : String) (rest : List Char) :
    readLiteral? ((stringLiteral s).toList ++ rest) = some (s.toList, rest) := by
  rw [stringLiteral, String.toList_ofList, List.cons_append, List.append_assoc, readLiteral?,
    if_pos rfl]
  exact readQuoted?_flatMap s.toList rest

/-- What follows a literal does not matter to the reader. -/
lemma readQuoted?_append {start text after : List Char}
    (h : readQuoted? start = some (text, after)) (rest : List Char) :
    readQuoted? (start ++ rest) = some (text, after ++ rest) := by
  fun_induction readQuoted? start generalizing text with
  | case1 => cases h
  | case2 start =>
    cases h
    exact readQuoted?_quote _
  | case3 => cases h
  | case4 => cases h
  | case5 e start hquote hnewline ih =>
    obtain ⟨d, hd, hmap⟩ := Option.bind_eq_some_iff.mp h
    obtain ⟨r, hr, heq⟩ := Option.map_eq_some_iff.mp hmap
    cases heq
    simp [readQuoted?, hd, ih hr]
  | case6 c start hquote hnewline hbackslash ih =>
    obtain ⟨r, hr, heq⟩ := Option.map_eq_some_iff.mp h
    cases heq
    rw [List.cons_append, readQuoted?_plain hbackslash hquote hnewline, ih hr]
    rfl

lemma readLiteral?_append {start text after : List Char}
    (h : readLiteral? start = some (text, after)) (rest : List Char) :
    readLiteral? (start ++ rest) = some (text, after ++ rest) := by
  cases start with
  | nil => cases h
  | cons c start =>
    rw [readLiteral?] at h
    split_ifs at h with hquote
    rw [List.cons_append, readLiteral?, if_pos hquote]
    exact readQuoted?_append h rest

/-- No quote before the last closes the literal. -/
theorem readLiteral?_of_cut {s : String} {start rest : List Char}
    (hcut : (stringLiteral s).toList = start ++ rest) (hrest : rest ≠ []) :
    readLiteral? start = none := by
  refine Option.eq_none_iff_forall_ne_some.mpr fun r hr => hrest ?_
  have hwhole := readLiteral?_append hr rest
  rw [← hcut, ← List.append_nil (stringLiteral s).toList, readLiteral?_stringLiteral] at hwhole
  have hafter : [] = r.2 ++ rest := (Prod.mk.inj (Option.some.inj hwhole)).2
  exact (List.append_eq_nil_iff.mp hafter.symm).2

lemma newline_notMem_stringLiteral (s : String) : '\n' ∉ (stringLiteral s).toList := by
  have hescape (c : Char) : '\n' ∉ escapeChar c := by
    unfold escapeChar
    split_ifs with _ _ hnewline
    · decide
    · decide
    · decide
    · decide
    · exact fun hmem => hnewline (List.mem_singleton.mp hmem).symm
  rw [stringLiteral, String.toList_ofList]
  simp [hescape]

/-- An escape before the closing quote is a character at the end of the text. -/
theorem appendNewline_stringLiteral (s : String) :
    appendNewline (stringLiteral s) = stringLiteral (s ++ "\n") := by
  have hliteral : (stringLiteral s).toList = ('"' :: s.toList.flatMap escapeChar) ++ ['"'] := by
    rw [stringLiteral, String.toList_ofList, List.cons_append]
  have hnewline : escapeChar '\n' = ['\\', 'n'] := rfl
  rw [appendNewline, hliteral, List.getLast?_concat, List.dropLast_concat]
  simp [stringLiteral, hnewline]

end Code

/-! ### Printing -/

namespace Proofs

open Code (Fragment readLiteral? stringLiteral)

section Walk

variable {g : Graph} {board : Board} {indent : String} {busy : List String} {b c : Block}
  {fragment : Fragment}

lemma stringLiteral_ne_empty (s : String) : stringLiteral s ≠ "" := by
  intro h
  have hlist := congrArg String.toList h
  rw [stringLiteral, String.toList_ofList] at hlist
  cases hlist

/-- What a printing block calls, and the arguments before the format. -/
def printCall? (b : Block) : Kind → Option (String × List String)
  | .serial .print => some (b.text "SERIAL_Pins" ++ ".printf", [])
  | .file .print => some ("fprintf", [b.textOr "FILE" "fp"])
  | _ => none

/-- A printing block calls with what its two sockets yield. -/
lemma result_of_printCall {k : Kind} {callee : String} {leading : List String}
    (h : printCall? b k = some (callee, leading)) :
    let content := (g.socketValue (g.emitter board indent (b.id :: busy)) b "CONTENT"
      .argument).result.getD "0"
    (scriptRun g board indent busy b k).result =
      .statement (PrintArguments.call
        { content := if b.isChecked "NEW_LINE" then Code.appendNewline content else content
          extra := (g.socketValue (g.emitter board indent (b.id :: busy)) b "CONTENT_STR"
            .argument).result } callee leading) := by
  unfold printCall? at h
  split at h
  · cases h
    rfl
  · cases h
    rfl
  · cases h

lemma open_of_printCall {k : Kind} {call : String × List String} (h : printCall? b k = some call) :
    ¬Closed (k.emit g b) := by
  unfold printCall? at h
  split at h
  · exact fun hclosed => hclosed.1 trivial
  · -- The file is declared before the content is asked for.
    exact fun hclosed => (hclosed.2 ()).1 trivial
  · cases h

/-- Wherever a printing block with a text and a checked line feed is emitted, its format is the
literal of the text with the line feed. -/
lemma fragment_of_print (h : (b, fragment) ∈ emitted g board indent) {k : Kind}
    (hk : b.kind? = some k) {callee : String} {leading : List String}
    (hcall : printCall? b k = some (callee, leading)) (hline : b.isChecked "NEW_LINE" = true)
    (hc : (b.values.get? "CONTENT").bind g.get? = some c)
    (htext : c.kind? = some (.language .text)) :
    ∃ extra, fragment = .statement (PrintArguments.call
        { content := stringLiteral (c.text "TEXT" ++ "\n"), extra } callee leading) ∧
      ((b.values.get? "CONTENT_STR").bind g.get? = none → extra = none) := by
  obtain ⟨busy, k', hreached, hkind, hresult⟩ := exists_reached_of_emitted h
  obtain rfl : k' = k := Option.some.inj (hkind.symm.trans hk)
  have hcontent : (g.socketValue (g.emitter board indent (b.id :: busy)) b "CONTENT"
      .argument).result = some (stringLiteral (c.text "TEXT")) :=
    hreached.socketValue_of_done hk (open_of_printCall hcall) hc htext rfl rfl
      (stringLiteral_ne_empty _) .argument
  rw [result_of_printCall hcall, hcontent, Option.getD_some, if_pos hline,
    Code.appendNewline_stringLiteral] at hresult
  refine ⟨_, hresult.symm, fun hvacant => ?_⟩
  rw [Graph.socketValue_of_vacant hvacant]
  rfl

end Walk

/-- A literal is read as the text that it was made of, whatever follows it; cut short it is not
read at all, so no quote but its last closes it; and it holds no line feed. A line feed that is put
before the closing quote is one at the end of the text. So where a block prints a text with a line
feed, the format in its call is the literal of the text and the line feed, and there are no other
arguments if the block has none. -/
theorem printed_literal_denotes_text (s : String) :
    (∀ rest, readLiteral? ((stringLiteral s).toList ++ rest) = some (s.toList, rest)) ∧
    (∀ start rest, (stringLiteral s).toList = start ++ rest → rest ≠ [] →
      readLiteral? start = none) ∧
    '\n' ∉ (stringLiteral s).toList ∧
    Code.appendNewline (stringLiteral s) = stringLiteral (s ++ "\n") ∧
    ∀ g board indent b fragment c k callee leading, (b, fragment) ∈ emitted g board indent →
      b.kind? = some k → printCall? b k = some (callee, leading) → b.isChecked "NEW_LINE" = true →
      (b.values.get? "CONTENT").bind g.get? = some c → c.kind? = some (.language .text) →
      c.text "TEXT" = s →
        ∃ extra, fragment = .statement (PrintArguments.call
            { content := stringLiteral (s ++ "\n"), extra } callee leading) ∧
          ((b.values.get? "CONTENT_STR").bind g.get? = none → extra = none) := by
  refine ⟨Code.readLiteral?_stringLiteral s, fun _ _ => Code.readLiteral?_of_cut,
    Code.newline_notMem_stringLiteral s, Code.appendNewline_stringLiteral s, ?_⟩
  rintro g board indent b fragment c k callee leading h hk hcall hline hc htext rfl
  exact fragment_of_print h hk hcall hline hc htext

def pathBlock : Block :=
  { id := "path", kind := "text", fields := Dict.insert {} "TEXT" (.text "C:\\") }

def pathPrint : Block :=
  { id := "print"
    kind := "fs_fprintf"
    fields := Dict.insert {} "NEW_LINE" (.checkbox true)
    values := Dict.insert {} "CONTENT" "path" }

/-- A text that ends in a backslash, printed to the default file. -/
theorem printed_literal_denotes_text_path :
    readLiteral? (stringLiteral "C:\\").toList = some ("C:\\".toList, []) ∧
    readLiteral? (stringLiteral "C:\\").toList.dropLast = none ∧
    (pathPrint, .statement "fprintf(fp,\"C:\\\\\\n\");\n") ∈
      emitted { blocks := [pathPrint, pathBlock] } Board.Nucleo.profile "  " ∧
    PrintArguments.call { content := stringLiteral "C:\\\n", extra := none } "fprintf" ["fp"] =
      "fprintf(fp,\"C:\\\\\\n\");\n" := by
  obtain ⟨hread, hcut, -, -, hprint⟩ := printed_literal_denotes_text "C:\\"
  have hemitted : (pathPrint, .statement "fprintf(fp,\"C:\\\\\\n\");\n") ∈
      emitted { blocks := [pathPrint, pathBlock] } Board.Nucleo.profile "  " := by decide +kernel
  obtain ⟨extra, hfragment, hextra⟩ := hprint _ _ _ pathPrint _ pathBlock (.file .print) "fprintf"
    ["fp"] hemitted rfl rfl rfl rfl rfl rfl
  rw [hextra rfl] at hfragment
  exact ⟨hread [], hcut _ ['"'] rfl (by decide), hemitted, (Fragment.statement.inj hfragment).symm⟩

end Proofs

end MbedBlocks
