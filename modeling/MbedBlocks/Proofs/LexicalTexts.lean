import Mathlib.Data.List.TakeWhile
import Mathlib.Data.Nat.Init
import Mathlib.Tactic.Set
import MbedBlocks.Emit.Module
import MbedBlocks.Proofs.LexicalScan

/-!
# Texts that keep the reader in place

Literals, names and numbers are balanced whatever they are made from. The rewritings of finished
text do not disturb the reader either: a margin before each line, a line feed escape before the last
quote, a mark before each word.
-/

namespace MbedBlocks.Lexical

open Code

/-! ### Characters -/

/-- The characters that mean something to the reader. -/
def signChars : List Char := ['(', ')', '[', ']', '\x7b', '\x7d', '"', '\\', ',', '\n']

lemma sign_eq_other {c : Char} (h : c ∉ signChars) : sign c = .other := by
  simp only [signChars, List.mem_cons, List.not_mem_nil, or_false, not_or] at h
  unfold sign
  split <;> first | rfl | simp at h

/-- A class of characters none of which means anything to the reader. -/
lemma sign_of_class {p : Char → Bool} (hp : signChars.any p = false) {c : Char} (h : p c) :
    sign c = .other :=
  sign_eq_other fun hc => List.any_eq_false.mp hp c hc h

lemma sign_of_isDigit {c : Char} (h : c.isDigit) : sign c = .other :=
  sign_of_class (by decide) h

lemma sign_of_isAlphanum {c : Char} (h : c.isAlphanum) : sign c = .other :=
  sign_of_class (by decide) h

lemma sign_of_isWord {c : Char} (h : Text.isWord c) : sign c = .other :=
  sign_of_class (by decide) h

lemma sign_of_isBlank {c : Char} (h : Text.isBlank c) : sign c = .other ∨ sign c = .newline := by
  by_cases hc : c = '\n'
  · exact .inr (hc ▸ rfl)
  · have hblank : (Text.isBlank c && c != '\n') = true := by simp [h, hc]
    exact .inl (sign_of_class (p := fun c => Text.isBlank c && c != '\n') (by decide) hblank)

lemma sign_hexDigit {n : Nat} : ∀ c ∈ Nat.toDigits 16 n, sign c = .other := by
  have hdigit : ∀ d < 16, sign (Nat.digitChar d) = .other := by decide
  induction n using Nat.strong_induction_on with
  | _ n ih =>
    intro c hc
    rw [Nat.toDigits_eq_if (by decide)] at hc
    split_ifs at hc with hn
    · rw [List.mem_singleton.mp hc]
      exact hdigit n hn
    · rcases List.mem_append.mp hc with hc | hc
      · exact ih (n / 16) (by omega) c hc
      · rw [List.mem_singleton.mp hc]
        exact hdigit (n % 16) (Nat.mod_lt n (by decide))

/-! ### Names and numbers -/

section Names

lemma plain_ofList {cs : List Char} (h : ∀ c ∈ cs, sign c = .other) : Plain (String.ofList cs) := by
  intro c hc
  rw [String.toList_ofList] at hc
  exact h c hc

lemma plain_literal {cs : List Char} (h : cs.all (fun c => sign c = .other) = true) :
    Plain (String.ofList cs) :=
  plain_ofList fun c hc => of_decide_eq_true (List.all_eq_true.mp h c hc)

lemma plain_identifierSuffix (id : String) : Plain (identifierSuffix id) := by
  refine plain_ofList fun c hc => ?_
  obtain ⟨d, -, hd⟩ := List.mem_flatMap.mp hc
  unfold identifierChar at hd
  split_ifs at hd with halnum
  · rw [List.mem_singleton.mp hd]
    exact sign_of_isAlphanum halnum
  · rcases List.mem_cons.mp hd with rfl | hd
    · rfl
    · rcases List.mem_append.mp hd with hd | hd
      · exact sign_hexDigit c hd
      · rw [List.mem_singleton.mp hd]
        rfl

lemma plain_signed (negative : Bool) {cs : List Char} (h : ∀ c ∈ cs, sign c = .other) :
    Plain (Decimal.signed negative cs) := by
  cases negative with
  | false => exact plain_ofList h
  | true => exact plain_ofList (List.forall_mem_cons.mpr ⟨rfl, h⟩)

lemma plain_infinityText (negative : Bool) : Plain (Decimal.infinityText negative) := by
  cases negative <;> exact plain_literal rfl

lemma sign_toDigits {n : Nat} : ∀ c ∈ Nat.toDigits 10 n, sign c = .other :=
  fun _ hc => sign_of_isDigit (Nat.isDigit_of_mem_toDigits (by decide) (by decide) hc)

lemma sign_positional (d : Decimal.Scaled) : ∀ c ∈ Decimal.positional d, sign c = .other := by
  have hdigits : ∀ c ∈ d.text, sign c = .other := sign_toDigits
  have hzeros (n : Nat) : ∀ c ∈ Decimal.zeros n, sign c = .other := by
    intro c hc
    rw [List.eq_of_mem_replicate hc]
    rfl
  have hpoint : sign '.' = .other := rfl
  unfold Decimal.positional
  simp only
  split_ifs
  · exact List.forall_mem_append.mpr ⟨hdigits, hzeros _⟩
  · refine List.forall_mem_append.mpr ⟨fun c hc => hdigits c (List.mem_of_mem_take hc), ?_⟩
    exact List.forall_mem_cons.mpr ⟨hpoint, fun c hc => hdigits c (List.mem_of_mem_drop hc)⟩
  · refine List.forall_mem_cons.mpr ⟨rfl, List.forall_mem_cons.mpr ⟨hpoint, ?_⟩⟩
    exact List.forall_mem_append.mpr ⟨hzeros _, hdigits⟩

lemma plain_plain (x : Float) : Plain (Decimal.plain x) := by
  unfold Decimal.plain
  split
  · exact plain_literal rfl
  · exact plain_infinityText _
  · exact plain_signed _ (List.forall_mem_singleton.mpr rfl)
  · exact plain_signed _ (sign_positional _)

lemma plain_program (x : Float) : Plain (Decimal.program x) := by
  unfold Decimal.program
  split
  · split
    · split_ifs
      · exact plain_signed _ sign_toDigits
      · exact plain_plain x
    · exact plain_plain x
  · exact plain_plain x

lemma plain_onePlace (x : Float) : Plain (Decimal.onePlace x) := by
  unfold Decimal.onePlace
  split
  · exact plain_literal rfl
  · exact plain_infinityText _
  · refine plain_signed _ (List.forall_mem_append.mpr ⟨sign_toDigits, ?_⟩)
    exact List.forall_mem_cons.mpr ⟨rfl, sign_toDigits⟩

end Names

/-! ### Quoted texts -/

section Quoting

variable {single : Bool} {s t : String}

/-- Inside a literal only a quote, a backslash and a line break mean anything. -/
lemma step_literal {stack : List Bracket} {c : Char} (hbackslash : c ≠ '\\') (hquote : c ≠ '"')
    (hnewline : c ≠ '\n') : step single ⟨stack, .literal⟩ (sign c) = some ⟨stack, .literal⟩ := by
  unfold sign
  split <;> first | rfl | contradiction

lemma scan_escapeChar (stack : List Bracket) (c : Char) :
    scan single (some ⟨stack, .literal⟩) (escapeChar c) = some ⟨stack, .literal⟩ := by
  unfold escapeChar
  split_ifs with hbackslash hquote hnewline
  all_goals first | rfl | exact step_literal hbackslash hquote hnewline

lemma scan_flatMap_escapeChar (stack : List Bracket) (cs : List Char) :
    scan single (some ⟨stack, .literal⟩) (cs.flatMap escapeChar) = some ⟨stack, .literal⟩ := by
  induction cs with
  | nil => rfl
  | cons c cs ih => rw [List.flatMap_cons, scan_append, scan_escapeChar, ih]

@[simp] lemma neutral_stringLiteral (s : String) : Neutral single (stringLiteral s) := by
  rw [Neutral, stringLiteral, String.toList_ofList, scan_cons, scan_append]
  have hopen : next single (some {}) '"' = some ⟨[], .literal⟩ := rfl
  rw [hopen, scan_flatMap_escapeChar]
  rfl

/-- A quote at the end of a balanced text closes a literal, so there is room for an escape before
it. -/
lemma Neutral.appendNewline (h : Neutral single t) : Neutral single (appendNewline t) := by
  unfold Code.appendNewline
  split
  next hlast =>
    obtain ⟨front, hfront⟩ := List.getLast?_eq_some_iff.mp hlast
    have hscan : Lexical.scan single (some {}) (front ++ ['"']) = some {} := hfront ▸ h
    obtain ⟨⟨stack, mode⟩, hstart, hquote⟩ := exists_scan hscan
    obtain ⟨rfl, rfl⟩ : stack = [] ∧ mode = .literal := by
      cases mode <;> cases hquote
      exact ⟨rfl, rfl⟩
    rw [Neutral, String.toList_ofList, hfront, List.dropLast_concat, scan_append, hstart]
    rfl
  next => exact h

end Quoting

/-! ### Rewritten texts -/

section Rewriting

variable {single : Bool} {s t : String}

/-- A mark means nothing outside literals and inside, and behind a backslash it takes the place of
the word character that follows. -/
lemma scan_mark (s : State) {c : Char} (hc : sign c = .other) (rest : List Char) :
    scan single (some s) ('&' :: c :: rest) = scan single (some s) (c :: rest) := by
  obtain ⟨stack, mode⟩ := s
  simp only [scan_cons, next_some, hc]
  cases mode <;> simp only [step, next, hc, show sign '&' = .other from rfl, Option.bind_some]

lemma scan_markWords (inWord : Bool) (s : Option State) (cs : List Char) :
    scan single s (Text.markWords '&' inWord cs) = scan single s cs := by
  induction cs generalizing inWord s with
  | nil => rfl
  | cons c cs ih =>
    rw [Text.markWords]
    split_ifs with hword
    · have hc : sign c = .other := sign_of_isWord (Bool.and_eq_true_iff.mp hword).1
      cases s with
      | none => simp only [scan_none]
      | some s => rw [scan_mark s hc, scan_cons, scan_cons, ih]
    · rw [scan_cons, scan_cons, ih]

lemma Neutral.addressOfWords (h : Neutral single t) : Neutral single (Text.addressOfWords t) := by
  rw [Neutral, Text.addressOfWords, String.toList_ofList, scan_markWords]
  exact h

lemma neutral_of_blank (h : ∀ c ∈ t.toList, Text.isBlank c) : Neutral single t :=
  scan_skip fun c hc => sign_of_isBlank (h c hc)

/-- Every line of a text but the last one is ended. -/
lemma line_ends {cs : List Char} {line : List Char} (h : line ∈ (Text.lines cs).dropLast) :
    ∃ start, line = start ++ ['\n'] := by
  induction cs generalizing line with
  | nil => cases h
  | cons c cs ih =>
    rw [Text.lines] at h
    split_ifs at h with hc
    · cases hlines : Text.lines cs with
      | nil =>
        rw [hlines] at h
        cases h
      | cons first more =>
        rw [hlines, List.dropLast_cons_cons, ← hlines] at h
        rcases List.mem_cons.mp h with rfl | h
        · exact ⟨[], by rw [hc]; rfl⟩
        · exact ih h
    · cases hlines : Text.lines cs with
      | nil =>
        rw [hlines] at h
        cases h
      | cons first more =>
        rw [hlines] at h ih
        cases more with
        | nil => cases h
        | cons second more =>
          rw [List.dropLast_cons_cons] at h ih
          rcases List.mem_cons.mp h with rfl | h
          · obtain ⟨start, rfl⟩ := ih List.mem_cons_self
            exact ⟨c :: start, rfl⟩
          · exact ih (List.mem_cons_of_mem _ h)

lemma flatten_lines (cs : List Char) : (Text.lines cs).flatten = cs := by
  induction cs with
  | nil => rfl
  | cons c cs ih =>
    rw [Text.lines]
    split_ifs with hc
    · rw [List.flatten_cons, ih]
      rfl
    · cases hlines : Text.lines cs with
      | nil =>
        rw [hlines] at ih
        rw [← ih]
        rfl
      | cons first more =>
        rw [hlines] at ih
        rw [← ih]
        rfl

/-- Lines begin outside literals, where a margin of blanks is skipped. -/
lemma scan_indentLine {margin : List Char} (hmargin : ∀ c ∈ margin, Text.isBlank c)
    (stack : List Bracket) (line : List Char) :
    scan single (some ⟨stack, .code⟩) (Text.indentLine margin line) =
      scan single (some ⟨stack, .code⟩) line := by
  unfold Text.indentLine
  split_ifs
  · rfl
  · rw [scan_append, scan_skip fun c hc => sign_of_isBlank (hmargin c hc)]

lemma scan_indented {margin : List Char} (hmargin : ∀ c ∈ margin, Text.isBlank c)
    {lines : List (List Char)} (hlines : ∀ line ∈ lines.dropLast, ∃ start, line = start ++ ['\n'])
    {stack : List Bracket} {s : State}
    (h : scan single (some ⟨stack, .code⟩) lines.flatten = some s) :
    scan single (some ⟨stack, .code⟩) (lines.flatMap (Text.indentLine margin)) = some s := by
  induction lines generalizing stack with
  | nil => exact h
  | cons line lines ih =>
    rw [List.flatten_cons] at h
    obtain ⟨⟨stack', mode⟩, hline, hrest⟩ := exists_scan h
    rw [List.flatMap_cons, scan_append, scan_indentLine hmargin, hline]
    cases lines with
    | nil => exact hrest
    | cons second more =>
      rw [List.dropLast_cons_cons] at hlines
      obtain ⟨start, rfl⟩ := hlines line List.mem_cons_self
      obtain rfl : mode = .code := mode_of_newline hline
      exact ih (fun l hl => hlines l (List.mem_cons_of_mem _ hl)) hrest

lemma Neutral.indentLines {margin : String} (h : Neutral single t)
    (hmargin : ∀ c ∈ margin.toList, Text.isBlank c) :
    Neutral single (Text.indentLines t margin) := by
  rw [Neutral, Text.indentLines, String.toList_ofList]
  apply scan_indented hmargin (fun _ => line_ends)
  rw [flatten_lines]
  exact h

/-- Blanks do not close a literal. -/
lemma eq_of_scan_blank {s : State} {cs : List Char} (hcs : ∀ c ∈ cs, Text.isBlank c)
    (h : scan single (some s) cs = some {}) : s = {} := by
  induction cs generalizing s with
  | nil => exact Option.some.inj h
  | cons c cs ih =>
    obtain ⟨s₁, hstep, hrest⟩ := exists_step h
    obtain rfl := ih (fun d hd => hcs d (List.mem_cons_of_mem c hd)) hrest
    obtain ⟨stack, mode⟩ := s
    rcases sign_of_isBlank (hcs c List.mem_cons_self) with hc | hc
    all_goals
      rw [hc] at hstep
      cases mode <;> cases hstep
      rfl

lemma Neutral.trimEnd (h : Neutral single t) : Neutral single (Text.trimEnd t) := by
  set front := Text.dropBlankEnd t.toList with hfront
  set blanks := (t.toList.reverse.takeWhile Text.isBlank).reverse with hblanks
  have hsplit : front ++ blanks = t.toList := by
    rw [hfront, hblanks, Text.dropBlankEnd, ← List.reverse_append, List.takeWhile_append_dropWhile,
      List.reverse_reverse]
  have hblank : ∀ c ∈ blanks, Text.isBlank c := fun c hc =>
    List.mem_takeWhile_imp (List.mem_reverse.mp hc)
  have hscan : Lexical.scan single (some {}) (front ++ blanks) = some {} := hsplit ▸ h
  obtain ⟨s, hs, hrest⟩ := exists_scan hscan
  rw [Neutral, Text.trimEnd, String.toList_ofList, ← hfront, hs, eq_of_scan_blank hblank hrest]

lemma Neutral.divideLiteral (h : Neutral single t) (divisor : Float) :
    Neutral single (divideLiteral t divisor) := by
  unfold Code.divideLiteral
  have hsign : Neutral single " / " := neutral_literal rfl
  split
  · exact (plain_program _).neutral
  · exact (h.append hsign).append (plain_onePlace divisor).neutral

lemma Neutral.multiplyLiteral (h : Neutral single t) (factor : Float) :
    Neutral single (multiplyLiteral t factor) := by
  unfold Code.multiplyLiteral
  have hsign : Neutral single " * " := neutral_literal rfl
  split
  · exact (plain_program _).neutral
  · exact (h.append hsign).append (plain_program factor).neutral

lemma Neutral.parenthesize (h : Neutral single t) (level slot : Level) :
    Neutral single (parenthesize t level slot) := by
  unfold Code.parenthesize
  split_ifs
  · rw [Neutral, String.toList_append, String.toList_append, scan_append, scan_append]
    have hopen : Lexical.scan single (some {}) "(".toList = some ⟨[.round], .code⟩ := rfl
    rw [hopen, h.scan]
    rfl
  · exact h

end Rewriting

/-! ### Arguments of a call -/

section Arguments

/-- Splits a list of arguments at the commas outside brackets and literals. -/
def splitArguments (s : Option State) : List Char → List (List Char)
  | [] => [[]]
  | c :: rest =>
    if s = some {} ∧ c = ',' then [] :: splitArguments s rest
    else
      match splitArguments (next false s c) rest with
      | [] => [[c]]
      | argument :: more => (c :: argument) :: more

/-- The arguments between the brackets of a call. -/
def arguments (text : String) : List String :=
  (splitArguments (some {}) text.toList).map String.ofList

/-- A text that is one argument is not split. -/
lemma splitArguments_append {s s' : State} {cs rest argument : List Char} {more : List (List Char)}
    (h : scan true (some s) cs = some s')
    (hrest : splitArguments (some s') rest = argument :: more) :
    splitArguments (some s) (cs ++ rest) = (cs ++ argument) :: more := by
  induction cs generalizing s with
  | nil =>
    obtain rfl : s = s' := Option.some.inj h
    exact hrest
  | cons c cs ih =>
    obtain ⟨s₁, hstep, hcs⟩ := exists_step h
    have hinner : ¬(some s = some {} ∧ c = ',') := by
      rintro ⟨hs, rfl⟩
      obtain rfl : s = {} := Option.some.inj hs
      cases hstep
    have hnext : next false (some s) c = some s₁ := by
      have hframe : step false ⟨s.stack ++ [], s.mode⟩ (sign c) = some ⟨s₁.stack ++ [], s₁.mode⟩ :=
        step_frame (by simp) hstep []
      simp only [List.append_nil] at hframe
      exact hframe
    rw [List.cons_append, splitArguments, if_neg hinner, hnext, ih hcs]
    rfl

lemma splitArguments_comma (rest : List Char) :
    splitArguments (some {}) (',' :: rest) = [] :: splitArguments (some {}) rest := by
  rw [splitArguments, if_pos ⟨rfl, rfl⟩]

/-- Arguments that are joined with commas are the arguments of the list. -/
theorem arguments_intercalate {texts : List String} (hne : texts ≠ [])
    (h : ∀ t ∈ texts, Single t) : arguments (",".intercalate texts) = texts := by
  have hsplit : splitArguments (some {}) (",".intercalate texts).toList =
      texts.map String.toList := by
    induction texts with
    | nil => exact absurd rfl hne
    | cons t texts ih =>
      have ht : scan true (some {}) t.toList = some {} := h t List.mem_cons_self
      cases texts with
      | nil =>
        have hlast : splitArguments (some {}) (t.toList ++ []) = [t.toList ++ []] :=
          splitArguments_append ht rfl
        simpa using hlast
      | cons u texts =>
        have hrest := ih (by simp) fun v hv => h v (List.mem_cons_of_mem t hv)
        have hcomma := splitArguments_append ht
          (splitArguments_comma (",".intercalate (u :: texts)).toList)
        rw [String.intercalate_cons_cons, String.toList_append, String.toList_append,
          List.append_assoc]
        rw [hrest, List.append_nil] at hcomma
        exact hcomma
  rw [arguments, hsplit, List.map_map]
  simp [Function.comp_def]

example : arguments "\"a, (\",pow(0, 0)" = ["\"a, (\"", "pow(0, 0)"] := by decide +kernel

end Arguments

end MbedBlocks.Lexical
