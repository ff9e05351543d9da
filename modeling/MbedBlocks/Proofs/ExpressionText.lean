import MbedBlocks.Proofs.ExpressionGrammar
import Mathlib

/-!
# Expressions as text

How C cuts a text into tokens, always taking the longest, and what texts put together from others
are read as. A text is read as a tree when its tokens derive the tree; it has at most one.
-/

namespace MbedBlocks.Proofs

def isNameStart (c : Char) : Bool := c.isAlpha || c == '_'

def isNameChar (c : Char) : Bool := c.isAlphanum || c == '_'

def isNumberChar (c : Char) : Bool := isNameChar c || c == '.'

/-- An identifier of C. -/
def isIdentifier : List Char → Bool
  | [] => false
  | c :: rest => isNameStart c && rest.all isNameChar

/-- Digits, and behind a point further digits. -/
def isNumeral (cs : List Char) : Bool :=
  !(cs.takeWhile Char.isDigit).isEmpty &&
    match cs.dropWhile Char.isDigit with
    | [] => true
    | c :: fraction => c == '.' && !fraction.isEmpty && fraction.all Char.isDigit

/-- A token of one character, unless the next one belongs to a longer token of C. -/
def shortToken (t : Token) (longer : List Char) (next : Option Char) : Option (Token × Nat) :=
  if next.any longer.contains then none else some (t, 0)

/-- The token that begins with a sign, and how many further characters it takes. Tokens of C that
have no place in the grammar are none. -/
def punctuation (c : Char) (next : Option Char) : Option (Token × Nat) :=
  match c with
  | '(' => some (.opening, 0)
  | ')' => some (.closing, 0)
  | ',' => some (.comma, 0)
  | '=' => if next = some '=' then some (.operator .equal, 1) else none
  | '!' => if next = some '=' then some (.operator .notEqual, 1) else some (.bang, 0)
  | '<' =>
    if next = some '=' then some (.operator .lessEqual, 1)
    else shortToken (.operator .less) ['<', ':', '%'] next
  | '>' =>
    if next = some '=' then some (.operator .greaterEqual, 1)
    else shortToken (.operator .greater) ['>'] next
  | '&' => if next = some '&' then some (.operator .and, 1) else none
  | '|' => if next = some '|' then some (.operator .or, 1) else none
  | '+' => shortToken (.operator .add) ['+', '='] next
  | '-' => shortToken (.operator .sub) ['-', '=', '>'] next
  | '*' => shortToken (.operator .mul) ['='] next
  | '/' => shortToken (.operator .div) ['=', '/', '*'] next
  | '%' => shortToken (.operator .mod) ['=', ':', '>'] next
  | _ => none

/-- The tokens of a text. -/
def lex : List Char → Option (List Token)
  | [] => some []
  | c :: rest =>
    if c.isWhitespace then lex rest
    else if isNameStart c then
      (Token.name (.ofList (c :: rest.takeWhile isNameChar)) :: ·) <$>
        lex (rest.dropWhile isNameChar)
    else if c.isDigit then
      if isNumeral (c :: rest.takeWhile isNumberChar) then
        (Token.number (.ofList (c :: rest.takeWhile isNumberChar)) :: ·) <$>
          lex (rest.dropWhile isNumberChar)
      else none
    else
      match punctuation c rest.head? with
      | none => none
      | some (t, n) => (t :: ·) <$> lex (rest.drop n)
termination_by cs => cs.length
decreasing_by
  all_goals simp only [List.length_cons, List.length_drop]
  · omega
  · have := (List.dropWhile_sublist isNameChar (l := rest)).length_le
    omega
  · have := (List.dropWhile_sublist isNumberChar (l := rest)).length_le
    omega
  · omega

/-- The text is cut before `rest`, whatever stands in front of it. -/
def Breaks (rest : List Char) : Prop := ∀ c cs, rest = c :: cs → c = ' ' ∨ c = ')' ∨ c = ','

lemma breaks_cons {c : Char} (cs : List Char) (h : c = ' ' ∨ c = ')' ∨ c = ',') :
    Breaks (c :: cs) := by
  intro c' cs' h'
  obtain ⟨rfl, rfl⟩ := List.cons.inj h'
  exact h

/-- A class of characters that does not go on into `rest` ends where it ended before. -/
lemma takeWhile_dropWhile_append {p : Char → Bool} (cs : List Char) {rest : List Char}
    (h : ∀ c cs, rest = c :: cs → p c = false) :
    (cs ++ rest).takeWhile p = cs.takeWhile p ∧ (cs ++ rest).dropWhile p = cs.dropWhile p ++ rest := by
  induction cs with
  | nil =>
    cases rest with
    | nil => exact ⟨rfl, rfl⟩
    | cons c cs => simp [h c cs rfl]
  | cons c cs ih => by_cases hc : p c <;> simp [hc, ih]

lemma Breaks.not_isNameChar {rest : List Char} (h : Breaks rest) :
    ∀ c cs, rest = c :: cs → isNameChar c = false := by
  intro c cs hrest
  rcases h c cs hrest with rfl | rfl | rfl <;> decide

lemma Breaks.not_isNumberChar {rest : List Char} (h : Breaks rest) :
    ∀ c cs, rest = c :: cs → isNumberChar c = false := by
  intro c cs hrest
  rcases h c cs hrest with rfl | rfl | rfl <;> decide

/-- What follows a sign before a break is as good as nothing. -/
lemma punctuation_of_breaks {c d : Char} {t : Token} {n : Nat} (h : punctuation c none = some (t, n))
    (hd : d = ' ' ∨ d = ')' ∨ d = ',') : punctuation c (some d) = some (t, n) ∧ n = 0 := by
  unfold punctuation at h ⊢
  split at h <;> rcases hd with rfl | rfl | rfl <;> simp_all [shortToken]

lemma punctuation_count {c : Char} {next : Option Char} {t : Token} {n : Nat}
    (h : punctuation c next = some (t, n)) : n = 0 ∨ n = 1 ∧ next.isSome := by
  unfold punctuation at h
  split at h <;> grind [shortToken]

lemma punctuation_append {c : Char} {cs rest : List Char} {t : Token} {n : Nat}
    (h : punctuation c cs.head? = some (t, n)) (hrest : Breaks rest) :
    punctuation c (cs ++ rest).head? = some (t, n) ∧ (cs ++ rest).drop n = cs.drop n ++ rest := by
  cases cs with
  | nil =>
    cases rest with
    | nil => exact ⟨h, by simp⟩
    | cons d rest =>
      obtain ⟨hd, rfl⟩ := punctuation_of_breaks h (hrest d rest rfl)
      exact ⟨hd, rfl⟩
  | cons d cs =>
    refine ⟨h, ?_⟩
    rcases punctuation_count h with rfl | ⟨rfl, -⟩ <;> rfl

/-- Tokens do not reach over a break. -/
theorem lex_append {cs rest : List Char} {ts : List Token} (h : lex cs = some ts)
    (hrest : Breaks rest) : lex (cs ++ rest) = (ts ++ ·) <$> lex rest := by
  induction cs using lex.induct generalizing ts with
  | case1 =>
    rw [lex] at h
    cases h
    simp
  | case2 c cs hc ih =>
    rw [lex, if_pos hc] at h
    rw [List.cons_append, lex, if_pos hc]
    exact ih h
  | case3 c cs hc hn ih =>
    rw [lex, if_neg hc, if_pos hn] at h
    obtain ⟨us, hus, rfl⟩ := Option.map_eq_some_iff.mp h
    obtain ⟨htake, hdrop⟩ := takeWhile_dropWhile_append cs hrest.not_isNameChar
    rw [List.cons_append, lex, if_neg hc, if_pos hn, htake, hdrop, ih hus]
    cases lex rest <;> rfl
  | case4 c cs hc hn hd hnum ih =>
    rw [lex, if_neg hc, if_neg hn, if_pos hd, if_pos hnum] at h
    obtain ⟨us, hus, rfl⟩ := Option.map_eq_some_iff.mp h
    obtain ⟨htake, hdrop⟩ := takeWhile_dropWhile_append cs hrest.not_isNumberChar
    rw [List.cons_append, lex, if_neg hc, if_neg hn, if_pos hd, htake, hdrop, if_pos hnum, ih hus]
    cases lex rest <;> rfl
  | case5 c cs hc hn hd hnum =>
    rw [lex, if_neg hc, if_neg hn, if_pos hd, if_neg hnum] at h
    cases h
  | case6 c cs hc hn hd hp =>
    rw [lex, if_neg hc, if_neg hn, if_neg hd, hp] at h
    cases h
  | case7 c cs hc hn hd t n hp ih =>
    rw [lex, if_neg hc, if_neg hn, if_neg hd, hp] at h
    obtain ⟨us, hus, rfl⟩ := Option.map_eq_some_iff.mp h
    obtain ⟨hp', hdrop⟩ := punctuation_append hp hrest
    rw [List.cons_append, lex, if_neg hc, if_neg hn, if_neg hd, hp']
    simp only [hdrop, ih hus]
    cases lex rest <;> rfl

lemma lex_space (cs : List Char) : lex (' ' :: cs) = lex cs := by
  rw [lex, if_pos (by decide)]

lemma lex_sign {c : Char} {cs rest : List Char} {t : Token} {n : Nat}
    (hblank : c.isWhitespace = false) (hname : isNameStart c = false) (hdigit : c.isDigit = false)
    (hp : punctuation c cs.head? = some (t, n)) (hdrop : cs.drop n = rest) :
    lex (c :: cs) = (t :: ·) <$> lex rest := by
  rw [lex]
  simp only [hblank, hname, hdigit, Bool.false_eq_true, if_false, hp, hdrop]

lemma lex_opening (cs : List Char) : lex ('(' :: cs) = (.opening :: ·) <$> lex cs :=
  lex_sign rfl rfl rfl rfl rfl

lemma lex_closing (cs : List Char) : lex (')' :: cs) = (.closing :: ·) <$> lex cs :=
  lex_sign rfl rfl rfl rfl rfl

lemma lex_comma (cs : List Char) : lex (',' :: cs) = (.comma :: ·) <$> lex cs :=
  lex_sign rfl rfl rfl rfl rfl

lemma lex_name {cs : List Char} (h : isIdentifier cs) (rest : List Char)
    (hrest : ∀ c cs, rest = c :: cs → isNameChar c = false) :
    lex (cs ++ rest) = (.name (.ofList cs) :: ·) <$> lex rest := by
  cases cs with
  | nil => cases h
  | cons c cs =>
    obtain ⟨hc, hcs⟩ := Bool.and_eq_true_iff.mp h
    have hblank : ¬c.isWhitespace = true := by
      intro hb
      simp only [Char.isWhitespace, Bool.or_eq_true, decide_eq_true_eq] at hb
      rcases hb with ((rfl | rfl) | rfl) | rfl <;> cases hc
    obtain ⟨htake, hdrop⟩ := takeWhile_dropWhile_append cs hrest
    have hall : ∀ d ∈ cs, isNameChar d = true := List.all_eq_true.mp hcs
    rw [List.cons_append, lex, if_neg hblank, if_pos hc, htake, hdrop,
      List.takeWhile_eq_self_iff.mpr hall, List.dropWhile_eq_nil_iff.mpr hall]
    rfl

lemma not_isWhitespace_of_isDigit {c : Char} (h : c.isDigit) : ¬c.isWhitespace = true := by
  intro hc
  simp only [Char.isWhitespace, Bool.or_eq_true, decide_eq_true_eq] at hc
  rcases hc with ((rfl | rfl) | rfl) | rfl <;> cases h

lemma not_isNameStart_of_isDigit {c : Char} (h : c.isDigit) : isNameStart c = false := by
  have hne : c ≠ '_' := by
    rintro rfl
    cases h
  have halpha : c.isAlpha = false := by
    simp only [Char.isAlpha, Char.isUpper, Char.isLower, Char.isDigit] at h ⊢
    grind
  simp [isNameStart, halpha, hne]

lemma isDigit_or_point_of_isNumeral {cs : List Char} (h : isNumeral cs) :
    ∀ c ∈ cs, c.isDigit ∨ c = '.' := by
  obtain ⟨-, hrest⟩ := Bool.and_eq_true_iff.mp h
  intro c hc
  rw [← List.takeWhile_append_dropWhile (p := Char.isDigit) (l := cs)] at hc
  rcases List.mem_append.mp hc with hc | hc
  · exact .inl (List.mem_takeWhile_imp hc)
  · split at hrest
    next hnil =>
      rw [hnil] at hc
      cases hc
    next d fraction hcons =>
      simp only [Bool.and_eq_true, beq_iff_eq, List.all_eq_true] at hrest
      rw [hcons] at hc
      rcases List.mem_cons.mp hc with rfl | hc
      · exact .inr hrest.1.1
      · exact .inl (hrest.2 c hc)

lemma isNumberChar_of_digit_or_point {c : Char} (h : c.isDigit ∨ c = '.') : isNumberChar c := by
  rcases h with h | rfl
  · simp [isNumberChar, isNameChar, Char.isAlphanum, h]
  · decide

lemma lex_number {cs : List Char} (h : isNumeral cs) (rest : List Char)
    (hrest : ∀ c cs, rest = c :: cs → isNumberChar c = false) :
    lex (cs ++ rest) = (.number (.ofList cs) :: ·) <$> lex rest := by
  cases cs with
  | nil => cases h
  | cons c cs =>
    have hc : c.isDigit := by
      by_contra hc
      simp [isNumeral, hc] at h
    have hblank := not_isWhitespace_of_isDigit hc
    have hname : ¬isNameStart c = true := by simp [not_isNameStart_of_isDigit hc]
    obtain ⟨htake, hdrop⟩ := takeWhile_dropWhile_append cs hrest
    have hall : ∀ d ∈ cs, isNumberChar d = true := fun d hd =>
      isNumberChar_of_digit_or_point
        (isDigit_or_point_of_isNumeral h d (List.mem_cons_of_mem c hd))
    rw [List.cons_append, lex, if_neg hblank, if_neg hname, if_pos hc, htake, hdrop,
      List.takeWhile_eq_self_iff.mpr hall, List.dropWhile_eq_nil_iff.mpr hall, if_pos h]
    rfl

/-- The spelling of an operator. -/
def BinaryOp.symbol : BinaryOp → String
  | or => "||"
  | and => "&&"
  | equal => "=="
  | notEqual => "!="
  | less => "<"
  | lessEqual => "<="
  | greater => ">"
  | greaterEqual => ">="
  | add => "+"
  | sub => "-"
  | mul => "*"
  | div => "/"
  | mod => "%"

lemma lex_symbol (op : BinaryOp) (cs : List Char) :
    lex (op.symbol.toList ++ ' ' :: cs) = (.operator op :: ·) <$> lex cs := by
  rw [← lex_space cs]
  cases op <;> exact lex_sign rfl rfl rfl rfl rfl

/-! ### Trees of texts -/

/-- The text is read as the tree at a level of the grammar. -/
def Reads (n : Nonterminal) (s : String) (e : Expr) : Prop :=
  ∃ ts, lex s.toList = some ts ∧ Derives n ts e

theorem Reads.unique {n n' : Nonterminal} {s : String} {e e' : Expr} (h : Reads n s e)
    (h' : Reads n' s e') : e = e' := by
  obtain ⟨ts, hts, h⟩ := h
  obtain ⟨ts', hts', h'⟩ := h'
  obtain rfl : ts = ts' := Option.some.inj (hts.symm.trans hts')
  exact h.unique h'

lemma Reads.loosen {n k : Nonterminal} {s : String} {e : Expr} (h : Reads n s e)
    (hk : k.rank ≤ n.rank) : Reads k s e := by
  obtain ⟨ts, hts, h⟩ := h
  exact ⟨ts, hts, h.loosen hk⟩

lemma Reads.ne_empty {n : Nonterminal} {s : String} {e : Expr} (h : Reads n s e) : s ≠ "" := by
  rintro rfl
  obtain ⟨ts, hts, h⟩ := h
  obtain ⟨t, us, rfl, -⟩ := h.starts
  simp [lex] at hts

lemma reads_number {s : String} (h : isNumeral s.toList) : Reads .primary s (.number s) := by
  refine ⟨[.number s], ?_, .number s⟩
  have hlex := lex_number h [] (by simp)
  rw [List.append_nil, lex] at hlex
  simpa using hlex

lemma reads_name {s : String} (h : isIdentifier s.toList) : Reads .primary s (.name s) := by
  refine ⟨[.name s], ?_, .name s⟩
  have hlex := lex_name h [] (by simp)
  rw [List.append_nil, lex] at hlex
  simpa using hlex

lemma Reads.parens {s : String} {e : Expr} (h : Reads .disjunction s e) :
    Reads .primary ("(" ++ s ++ ")") e := by
  obtain ⟨ts, hts, h⟩ := h
  refine ⟨.opening :: (ts ++ [.closing]), ?_, .parens h⟩
  have hclosing : lex [')'] = some [.closing] := by rw [lex_closing, lex]; rfl
  have hlex := lex_append hts (breaks_cons [] (.inr (.inl rfl)))
  simp only [String.toList_append]
  change lex ('(' :: (s.toList ++ [')'])) = _
  rw [lex_opening, hlex, hclosing]
  rfl

lemma Reads.binary (op : BinaryOp) {s t : String} {a b : Expr} (ha : Reads op.level s a)
    (hb : Reads op.level.next t b) :
    Reads op.level (s ++ " " ++ op.symbol ++ " " ++ t) (.binary op a b) := by
  obtain ⟨ts, hts, ha⟩ := ha
  obtain ⟨us, hus, hb⟩ := hb
  refine ⟨ts ++ .operator op :: us, ?_, .binary op ha hb⟩
  have hlex := lex_append hts (breaks_cons (op.symbol.toList ++ ' ' :: t.toList) (.inl rfl))
  simp only [String.toList_append, List.append_assoc]
  change lex (s.toList ++ ' ' :: (op.symbol.toList ++ ' ' :: t.toList)) = _
  rw [hlex, lex_space, lex_symbol, hus]
  rfl

/-- An exclamation mark before a text that is read as a tree is a token of its own. -/
lemma lex_bang {n : Nonterminal} {s : String} {e : Expr} (h : Reads n s e) :
    lex ('!' :: s.toList) = (.bang :: ·) <$> lex s.toList := by
  obtain ⟨ts, hts, h⟩ := h
  have hhead : s.toList.head? ≠ some '=' := by
    intro hhead
    obtain ⟨cs, hcs⟩ := List.head?_eq_some_iff.mp hhead
    obtain ⟨t, us, rfl, ht⟩ := h.starts
    rw [hcs, lex, if_neg (by decide), if_neg (by decide), if_neg (by decide)] at hts
    by_cases hnext : cs.head? = some '='
    · simp only [punctuation, hnext, if_true] at hts
      obtain ⟨vs, -, hvs⟩ := Option.map_eq_some_iff.mp hts
      obtain ⟨rfl, -⟩ := List.cons.inj hvs
      exact absurd ht.1 (by decide)
    · simp [punctuation, hnext] at hts
  refine lex_sign (n := 0) rfl rfl rfl ?_ rfl
  simp [punctuation, hhead]

lemma Reads.not {s : String} {e : Expr} (h : Reads .unary s e) :
    Reads .unary ("!" ++ s) (.unary .not e) := by
  have hbang := lex_bang h
  obtain ⟨ts, hts, h⟩ := h
  refine ⟨.bang :: ts, ?_, .unary .not h⟩
  rw [String.toList_append]
  change lex ('!' :: s.toList) = _
  rw [hbang, hts]
  rfl

/-- A minus sign before a numeral is an operator. -/
lemma reads_neg {s : String} (h : isNumeral s.toList) :
    Reads .unary ("-" ++ s) (.unary .neg (.number s)) := by
  have hnumber : Reads .unary s (.number s) := (reads_number h).loosen (by decide)
  obtain ⟨ts, hts, hderives⟩ := hnumber
  refine ⟨.operator .sub :: ts, ?_, .unary .neg hderives⟩
  have hsign : punctuation '-' s.toList.head? = some (.operator .sub, 0) := by
    cases hs : s.toList with
    | nil => rfl
    | cons c cs =>
      have hc : c ≠ '-' ∧ c ≠ '=' ∧ c ≠ '>' := by
        refine ⟨?_, ?_, ?_⟩ <;> rintro rfl <;> rw [hs] at h <;> cases h
      simp [punctuation, shortToken, hc]
  rw [String.toList_append]
  change lex ('-' :: s.toList) = _
  rw [lex_sign rfl rfl rfl hsign List.drop_zero, hts]
  rfl

lemma reads_call_nil {f : String} (hf : isIdentifier f.toList) :
    Reads .applied (f ++ "()") (.call (.name f) []) := by
  refine ⟨[.name f, .opening, .closing], ?_, .call [] (.alone (.name f)) (by simp)⟩
  have hname := lex_name hf ['(', ')'] (by rintro c cs ⟨rfl, rfl⟩; decide)
  rw [String.toList_append]
  change lex (f.toList ++ ['(', ')']) = _
  rw [hname, lex_opening, lex_closing, lex, String.ofList_toList]
  rfl

lemma reads_call_pair {f s t : String} {a b : Expr} (hf : isIdentifier f.toList)
    (ha : Reads .disjunction s a) (hb : Reads .disjunction t b) :
    Reads .applied (f ++ "(" ++ s ++ ", " ++ t ++ ")") (.call (.name f) [a, b]) := by
  obtain ⟨ts, hts, ha⟩ := ha
  obtain ⟨us, hus, hb⟩ := hb
  refine ⟨_, ?_, .call [(ts, a), (us, b)] (.alone (.name f)) (by simp [ha, hb])⟩
  have hclosing : lex [')'] = some [.closing] := by rw [lex_closing, lex]; rfl
  have hright := lex_append hus (breaks_cons [] (.inr (.inl rfl)))
  have hleft := lex_append hts (breaks_cons (' ' :: (t.toList ++ [')'])) (.inr (.inr rfl)))
  have hname := lex_name hf ('(' :: (s.toList ++ ',' :: ' ' :: (t.toList ++ [')'])))
    (by rintro c cs ⟨rfl, rfl⟩; decide)
  simp only [String.toList_append, List.append_assoc]
  change lex (f.toList ++ '(' :: (s.toList ++ ',' :: ' ' :: (t.toList ++ [')']))) = _
  rw [hname, lex_opening, hleft, lex_comma, lex_space, hright, hclosing, String.ofList_toList]
  simp [separated, List.intercalate]

lemma reads_equal_names {s t : String} (hs : isIdentifier s.toList) (ht : isIdentifier t.toList) :
    Reads .equality (s ++ "==" ++ t) (.binary .equal (.name s) (.name t)) := by
  obtain ⟨ts, hts, hright⟩ := (reads_name ht).loosen (k := .relation) (by decide)
  refine ⟨_, ?_, .binary .equal ((Derives.name s).loosen (by decide)) hright⟩
  have hname := lex_name hs ('=' :: '=' :: t.toList) (by rintro c cs ⟨rfl, rfl⟩; decide)
  simp only [String.toList_append, List.append_assoc]
  change lex (s.toList ++ '=' :: '=' :: t.toList) = _
  rw [hname, lex_sign (n := 1) rfl rfl rfl rfl rfl]
  simp [hts]

end MbedBlocks.Proofs
