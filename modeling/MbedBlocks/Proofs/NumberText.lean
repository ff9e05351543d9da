import MbedBlocks.Code.Literal
import MbedBlocks.Proofs.ExpressionText

/-!
# Numbers as text

Program text of a finite number is a numeral, with a minus sign in front if the number is negative.
Conversely, code that is folded at compile time because it spells a number is read as a literal.
-/

namespace MbedBlocks.Proofs

open Decimal (Binary Scaled)

/-! ### Writing -/

lemma ofFloat_of_isFinite {x : Float} (h : x.isFinite = true) :
    ∃ negative mantissa exponent, Binary.ofFloat x = .finite negative mantissa exponent := by
  unfold Binary.ofFloat Binary.ofBits
  by_cases hscale : x.toBits.toNat / Nat.pow 2 52 % Nat.pow 2 11 = 2047
  · exfalso
    have hexponent : @Float.Model.UnpackedFloat.unpackExponent Float.Model.Format.binary64
        x.toModel.toBits.toBitVec = -1#_ := by
      apply BitVec.eq_of_toNat_eq
      simpa [Float.Model.UnpackedFloat.unpackExponent, Nat.shiftRight_eq_div_pow, Float.toBits]
        using hscale
    -- An exponent of all ones is kept for the infinities and for what is no number.
    simp only [Float.isFinite, Float.Model.isFinite, Float.Model.unpack,
      Float.Model.UnpackedFloat.unpack, hexponent, if_true] at h
    split at h <;> cases h
  · simp only [hscale, if_false]
    split <;> exact ⟨_, _, _, rfl⟩

lemma isNumeral_of_isDigit {ds : List Char} (hne : ds ≠ []) (h : ∀ c ∈ ds, c.isDigit) :
    isNumeral ds := by
  rw [isNumeral, List.takeWhile_eq_self_iff.mpr h, List.dropWhile_eq_nil_iff.mpr h]
  simp [hne]

lemma isNumeral_point {ds fs : List Char} (hds : ds ≠ []) (hd : ∀ c ∈ ds, c.isDigit)
    (hfs : fs ≠ []) (hf : ∀ c ∈ fs, c.isDigit) : isNumeral (ds ++ '.' :: fs) := by
  have hpoint : ∀ c cs, '.' :: fs = c :: cs → c.isDigit = false := by
    rintro c cs ⟨rfl, rfl⟩
    decide
  obtain ⟨htake, hdrop⟩ := takeWhile_dropWhile_append ds hpoint
  rw [isNumeral, htake, hdrop, List.takeWhile_eq_self_iff.mpr hd, List.dropWhile_eq_nil_iff.mpr hd]
  simpa [hds, hfs] using hf

lemma isDigit_toDigits {n : Nat} : ∀ c ∈ Nat.toDigits 10 n, c.isDigit :=
  fun _ hc => Nat.isDigit_of_mem_toDigits (by decide) (by decide) hc

lemma isDigit_zeros {n : Nat} : ∀ c ∈ Decimal.zeros n, c.isDigit := by
  intro c hc
  rw [List.eq_of_mem_replicate hc]
  decide

lemma isNumeral_positional (d : Scaled) : isNumeral (Decimal.positional d) := by
  have hne : d.text ≠ [] := Nat.toDigits_ne_nil
  have hdigit : ∀ c ∈ d.text, c.isDigit := isDigit_toDigits
  have hlength : 0 < d.text.length := List.length_pos_iff.mpr hne
  unfold Decimal.positional
  simp only
  split_ifs with hexp hplaces
  · apply isNumeral_of_isDigit (by simp [hne])
    intro c hc
    exact (List.mem_append.mp hc).elim (hdigit c) (isDigit_zeros c)
  · have hpos : 0 < (-d.exponent).toNat := by omega
    apply isNumeral_point
    · rw [← List.length_pos_iff, List.length_take]
      omega
    · exact fun c hc => hdigit c (List.mem_of_mem_take hc)
    · rw [← List.length_pos_iff, List.length_drop]
      omega
    · exact fun c hc => hdigit c (List.mem_of_mem_drop hc)
  · refine @isNumeral_point ['0'] _ (by simp) (by simp) (by simp [hne]) ?_
    intro c hc
    exact (List.mem_append.mp hc).elim (isDigit_zeros c) (hdigit c)

/-- The tree of a number as program text: a minus sign is an operator. -/
def numberTree (text : String) : Expr :=
  match text.toList with
  | '-' :: digits => .unary .neg (.number (.ofList digits))
  | _ => .number text

/-- The level at which program text of a number is read. -/
def numberLevel (text : String) : Nonterminal :=
  if text.toList.head? = some '-' then .unary else .primary

lemma reads_signed (negative : Bool) {cs : List Char} (h : isNumeral cs) :
    Reads (numberLevel (Decimal.signed negative cs)) (Decimal.signed negative cs)
      (numberTree (Decimal.signed negative cs)) := by
  cases negative with
  | true =>
    have hneg := reads_neg (s := .ofList cs) (by simpa using h)
    have htext : "-" ++ String.ofList cs = Decimal.signed true cs := by
      simp [Decimal.signed]
    rw [htext] at hneg
    simpa [numberLevel, numberTree, Decimal.signed] using hneg
  | false =>
    have hnumber := reads_number (s := .ofList cs) (by simpa using h)
    cases cs with
    | nil => cases h
    | cons c cs =>
      have hc : c ≠ '-' := by
        rintro rfl
        cases h
      simpa [numberLevel, numberTree, Decimal.signed, hc] using hnumber

lemma program_of_isFinite {x : Float} (h : x.isFinite = true) :
    ∃ negative cs, isNumeral cs ∧ Decimal.program x = Decimal.signed negative cs := by
  obtain ⟨negative, mantissa, exponent, hx⟩ := ofFloat_of_isFinite h
  have hplain : ∃ negative cs, isNumeral cs ∧ Decimal.plain x = Decimal.signed negative cs := by
    unfold Decimal.plain
    rw [hx]
    cases mantissa with
    | zero => exact ⟨negative, ['0'], by decide, rfl⟩
    | succ m => exact ⟨negative, _, isNumeral_positional _, rfl⟩
  unfold Decimal.program
  rw [hx]
  simp only
  split
  next n _ =>
    split_ifs
    · exact ⟨_, _, isNumeral_of_isDigit Nat.toDigits_ne_nil isDigit_toDigits, rfl⟩
    · exact hplain
  next => exact hplain

/-- A finite number as program text is read as its literal. -/
theorem reads_program {x : Float} (h : x.isFinite = true) :
    Reads (numberLevel (Decimal.program x)) (Decimal.program x)
      (numberTree (Decimal.program x)) := by
  obtain ⟨negative, cs, hcs, htext⟩ := program_of_isFinite h
  rw [htext]
  exact reads_signed negative hcs

/-! ### Reading -/

/-- A number, or a number behind a minus sign. -/
def Expr.isLiteral : Expr → Bool
  | number _ => true
  | unary .neg (number _) => true
  | _ => false

lemma code_of_isAlphanum {c : Char} (h : c.isAlphanum) : 48 ≤ c.toNat ∧ c.toNat ≤ 122 := by
  simp only [Char.isAlphanum, Char.isAlpha, Char.isUpper, Char.isLower, Char.isDigit,
    Bool.or_eq_true, Bool.and_eq_true, decide_eq_true_eq, ge_iff_le, UInt32.le_iff_toNat_le,
    Char.toNat_val] at h
  change ((65 ≤ c.toNat ∧ c.toNat ≤ 90) ∨ (97 ≤ c.toNat ∧ c.toNat ≤ 122)) ∨
    (48 ≤ c.toNat ∧ c.toNat ≤ 57) at h
  omega

lemma not_isBlank_of_isNumberChar {c : Char} (h : isNumberChar c) : Text.isBlank c = false := by
  simp only [isNumberChar, isNameChar, Bool.or_eq_true, beq_iff_eq] at h
  rcases h with (h | rfl) | rfl
  · have hcode := code_of_isAlphanum h
    simp only [Text.isBlank, Bool.or_eq_false_iff, Bool.and_eq_false_iff, decide_eq_false_iff_not,
      beq_eq_false_iff_ne]
    omega
  · decide
  · decide

lemma not_isNumberChar_of_isBlank {c : Char} (h : Text.isBlank c) : isNumberChar c = false := by
  by_contra hc
  rw [not_isBlank_of_isNumberChar (by simpa using hc)] at h
  cases h

/-- White space of any script is skipped or cannot be read at all. -/
lemma lex_of_isBlank {c : Char} {cs : List Char} {ts : List Token} (hc : Text.isBlank c)
    (h : lex (c :: cs) = some ts) : lex cs = some ts := by
  by_cases hspace : c.isWhitespace = true
  · rwa [lex, if_pos hspace] at h
  · exfalso
    have hchar := not_isNumberChar_of_isBlank hc
    simp only [isNumberChar, isNameChar, Char.isAlphanum, Bool.or_eq_false_iff] at hchar
    obtain ⟨⟨⟨halpha, hdigit⟩, hunderscore⟩, -⟩ := hchar
    have hsign : punctuation c cs.head? = none := by
      unfold punctuation
      split <;> first | rfl | cases hc
    rw [lex] at h
    simp [hspace, isNameStart, halpha, hunderscore, hdigit, hsign] at h

lemma lex_of_blank {bs cs : List Char} {ts : List Token} (hbs : ∀ c ∈ bs, Text.isBlank c)
    (h : lex (bs ++ cs) = some ts) : lex cs = some ts := by
  induction bs with
  | nil => exact h
  | cons b bs ih =>
    exact ih (fun c hc => hbs c (List.mem_cons_of_mem b hc)) (lex_of_isBlank (hbs b (by simp)) h)

lemma exists_blank_trim (s : String) : ∃ before after : List Char,
    s.toList = before ++ ((Text.trim s).toList ++ after) ∧
      (∀ c ∈ before, Text.isBlank c) ∧ ∀ c ∈ after, Text.isBlank c := by
  set middle := Text.dropBlank s.toList with hmiddle
  refine ⟨s.toList.takeWhile Text.isBlank, (middle.reverse.takeWhile Text.isBlank).reverse, ?_,
    fun c hc => List.mem_takeWhile_imp hc,
    fun c hc => List.mem_takeWhile_imp (List.mem_reverse.mp hc)⟩
  have hends : (Text.trim s).toList ++ (middle.reverse.takeWhile Text.isBlank).reverse = middle := by
    rw [Text.trim, String.toList_ofList, ← hmiddle, Text.dropBlankEnd, ← List.reverse_append,
      List.takeWhile_append_dropWhile, List.reverse_reverse]
  rw [hends, hmiddle, Text.dropBlank, List.takeWhile_append_dropWhile]

lemma readPower?_head {power : List Char} {p : Int} (h : Decimal.readPower? power = some p) :
    ∀ c cs, power = c :: cs → c = 'e' ∨ c = 'E' := by
  rintro c cs rfl
  by_contra hc
  rw [Decimal.readPower?, if_neg hc] at h
  cases h

/-- An unsigned numeral is digits and a point, and perhaps a power of ten behind them. -/
lemma readUnsigned?_split {negative : Bool} {cs : List Char} {n : Decimal.Numeral}
    (h : Decimal.readUnsigned? negative cs = some n) : ∃ number power : List Char,
    cs = number ++ power ∧ number ≠ [] ∧ (∀ c ∈ number, c.isDigit ∨ c = '.') ∧
      ∀ c cs, power = c :: cs → c = 'e' ∨ c = 'E' := by
  have hcs : cs.takeWhile Char.isDigit ++ cs.dropWhile Char.isDigit = cs :=
    List.takeWhile_append_dropWhile
  have hdigit : ∀ ds : List Char, ∀ c ∈ ds.takeWhile Char.isDigit, c.isDigit ∨ c = '.' :=
    fun ds c hc => .inl (List.mem_takeWhile_imp hc)
  unfold Decimal.readUnsigned? at h
  simp only at h
  split at h
  next more hmore =>
    split_ifs at h
    obtain ⟨p, hp, -⟩ := Option.map_eq_some_iff.mp h
    refine ⟨cs.takeWhile Char.isDigit ++ '.' :: more.takeWhile Char.isDigit,
      more.dropWhile Char.isDigit, ?_, by simp, ?_, readPower?_head hp⟩
    · rw [List.append_assoc, List.cons_append, List.takeWhile_append_dropWhile, ← hmore, hcs]
    · intro c hc
      simp only [List.mem_append, List.mem_cons] at hc
      rcases hc with hc | rfl | hc
      · exact hdigit cs c hc
      · exact .inr rfl
      · exact hdigit more c hc
  next =>
    split_ifs at h with hempty
    obtain ⟨p, hp, -⟩ := Option.map_eq_some_iff.mp h
    refine ⟨_, _, hcs.symm, ?_, hdigit cs, readPower?_head hp⟩
    intro hnil
    simp [hnil] at hempty

/-- A numeral that the grammar can read is one token. -/
lemma lex_of_readUnsigned? {negative : Bool} {cs after : List Char} {n : Decimal.Numeral}
    {ts : List Token} (h : Decimal.readUnsigned? negative cs = some n)
    (hafter : ∀ c ∈ after, Text.isBlank c) (hts : lex (cs ++ after) = some ts) :
    ∃ digits, ts = [.number digits] := by
  obtain ⟨number, power, rfl, hne, hnumber, hpower⟩ := readUnsigned?_split h
  obtain ⟨c, number, rfl⟩ := List.exists_cons_of_ne_nil hne
  have hchars : ∀ d ∈ number, isNumberChar d := fun d hd =>
    isNumberChar_of_digit_or_point (hnumber d (List.mem_cons_of_mem c hd))
  rcases hnumber c (by simp) with hc | rfl
  · have hblank : ¬c.isWhitespace = true := not_isWhitespace_of_isDigit hc
    have hname : ¬isNameStart c = true := by simp [not_isNameStart_of_isDigit hc]
    rw [List.append_assoc, List.cons_append, lex, if_neg hblank, if_neg hname, if_pos hc] at hts
    split_ifs at hts with hnum
    obtain ⟨us, hus, rfl⟩ := Option.map_eq_some_iff.mp hts
    cases power with
    | nil =>
      -- Nothing but white space is left behind the numeral.
      have hstop : ∀ d ds, after = d :: ds → isNumberChar d = false := by
        rintro d ds rfl
        exact not_isNumberChar_of_isBlank (hafter d (by simp))
      obtain ⟨-, hdrop⟩ := takeWhile_dropWhile_append number hstop
      rw [List.nil_append, hdrop, List.dropWhile_eq_nil_iff.mpr hchars, List.nil_append,
        ← List.append_nil after] at hus
      have hnil := lex_of_blank hafter hus
      rw [lex] at hnil
      cases hnil
      exact ⟨_, rfl⟩
    | cons e power =>
      -- The letter of the power of ten would belong to the token.
      have he := hpower e power rfl
      have hmem : e ∈ (number ++ (e :: power ++ after)).takeWhile isNumberChar := by
        rw [List.takeWhile_append_of_pos hchars, List.cons_append, List.takeWhile_cons_of_pos]
        · simp
        · rcases he with rfl | rfl <;> decide
      have hdigit := isDigit_or_point_of_isNumeral hnum e (List.mem_cons_of_mem c hmem)
      rcases he with rfl | rfl <;> exact absurd hdigit (by decide)
  · rw [List.append_assoc, List.cons_append, lex] at hts
    cases hts

lemma splitSign_eq {cs body : List Char} {negative : Bool}
    (h : Decimal.splitSign cs = (negative, body)) :
    cs = body ∨ cs = '-' :: body ∨ cs = '+' :: body := by
  unfold Decimal.splitSign at h
  split at h <;> cases h <;> simp

lemma lex_of_sign {c : Char} {cs longer : List Char} {t : Token} {ts : List Token}
    (hblank : c.isWhitespace = false) (hname : isNameStart c = false) (hdigit : c.isDigit = false)
    (hsign : punctuation c cs.head? = shortToken t longer cs.head?) (h : lex (c :: cs) = some ts) :
    ∃ us, lex cs = some us ∧ ts = t :: us := by
  have hshort : punctuation c cs.head? = some (t, 0) := by
    rw [hsign, shortToken]
    split_ifs with hlong
    · rw [lex] at h
      simp [hblank, hname, hdigit, hsign, shortToken, hlong] at h
    · rfl
  rw [lex_sign hblank hname hdigit hshort List.drop_zero] at h
  obtain ⟨us, hus, rfl⟩ := Option.map_eq_some_iff.mp h
  exact ⟨us, hus, rfl⟩

/-- The tokens of a text that spells a finite number. -/
lemma lex_of_readFloat? {s : String} {after : List Char} {x : Float} {ts : List Token}
    (h : Decimal.readFloat? s = some x) (hx : x.isFinite = true)
    (hafter : ∀ c ∈ after, Text.isBlank c) (hts : lex (s.toList ++ after) = some ts) :
    ∃ digits, ts = [.number digits] ∨ ts = [.operator .sub, .number digits] ∨
      ts = [.operator .add, .number digits] := by
  unfold Decimal.readFloat? at h
  rcases hsplit : Decimal.splitSign s.toList with ⟨negative, body⟩
  rw [hsplit] at h
  simp only at h
  split_ifs at h with hinf hnan
  · cases h
    cases negative <;> exact absurd hx (by decide)
  · cases h
    exact absurd hx (by decide)
  · obtain ⟨n, hn, -⟩ := Option.map_eq_some_iff.mp h
    rcases splitSign_eq hsplit with hs | hs | hs <;> rw [hs] at hts
    · obtain ⟨digits, rfl⟩ := lex_of_readUnsigned? hn hafter hts
      exact ⟨digits, .inl rfl⟩
    · obtain ⟨us, hus, rfl⟩ := lex_of_sign rfl rfl rfl rfl hts
      obtain ⟨digits, rfl⟩ := lex_of_readUnsigned? hn hafter hus
      exact ⟨digits, .inr (.inl rfl)⟩
    · obtain ⟨us, hus, rfl⟩ := lex_of_sign rfl rfl rfl rfl hts
      obtain ⟨digits, rfl⟩ := lex_of_readUnsigned? hn hafter hus
      exact ⟨digits, .inr (.inr rfl)⟩

lemma readFloat?_of_numericLiteral? {s : String} {x : Float}
    (h : Code.numericLiteral? s = some x) :
    Decimal.readFloat? (Text.trim s) = some x ∧ x.isFinite = true := by
  unfold Code.numericLiteral? at h
  simp only at h
  split at h
  · cases h
  · split_ifs at h
    exact Option.filter_eq_some_iff.mp h

/-- Code that is folded as a number is read as a literal. -/
theorem isLiteral_of_numericLiteral? {n : Nonterminal} {s : String} {e : Expr} {x : Float}
    (h : Reads n s e) (hx : Code.numericLiteral? s = some x) : e.isLiteral := by
  obtain ⟨ts, hts, h⟩ := h
  obtain ⟨before, after, hs, hbefore, hafter⟩ := exists_blank_trim s
  rw [hs] at hts
  obtain ⟨hread, hfinite⟩ := readFloat?_of_numericLiteral? hx
  obtain ⟨digits, rfl | rfl | rfl⟩ :=
    lex_of_readFloat? hread hfinite hafter (lex_of_blank hbefore hts)
  · rw [h.unique (.number digits)]
    rfl
  · have hneg : Derives .unary [.operator .sub, .number digits] (.unary .neg (.number digits)) :=
      .unary .neg ((Derives.number digits).loosen (by decide))
    rw [h.unique hneg]
    rfl
  · obtain ⟨t, us, hcons, hstarts⟩ := h.starts
    obtain ⟨rfl, -⟩ := List.cons.inj hcons
    cases hstarts.1

lemma numericLiteral?_eq_none {n : Nonterminal} {s : String} {e : Expr} (h : Reads n s e)
    (he : e.isLiteral = false) : Code.numericLiteral? s = none := by
  by_contra hsome
  obtain ⟨x, hx⟩ := Option.ne_none_iff_exists'.mp hsome
  rw [isLiteral_of_numericLiteral? h hx] at he
  cases he

end MbedBlocks.Proofs
