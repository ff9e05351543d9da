import Mathlib.Tactic.Lemma
import Mathlib.Tactic.SplitIfs
import MbedBlocks.Json.Reader
import MbedBlocks.Json.Writer

/-!
# Reading written JSON

The reader is a machine that moves from character to character. Here it is followed over each part of
a written text: blanks, quoted texts, words, numbers, and the lines between brackets. In front of a
written value it moves to where the value alone would have taken it, so a document reads as the value
that was written. Numbers count as given: a number has to be one whose digits read as itself.
-/

namespace MbedBlocks.Json

namespace Reader

variable {m m' : Machine} {s s' : Scan} {rest : List Char}

lemma run?_cons {c : Char} (h : s.step? c = some ([], s')) : run? s m (c :: rest) = run? s' m rest := by
  rw [run?, h]
  rfl

lemma run?_token {c : Char} {t : Token} (h : s.step? c = some ([t], s')) (hm : m.step? t = some m') :
    run? s m (c :: rest) = run? s' m' rest := by
  have hsteps : m.steps? [t] = some m' := by
    rw [Machine.steps?, List.foldlM_cons, hm]
    rfl
  rw [run?, h]
  simp only [hsteps]

/-! ### Blanks -/

lemma run?_blank : run? .outside m (' ' :: rest) = run? .outside m rest := run?_cons rfl

lemma run?_lineFeed : run? .outside m ('\n' :: rest) = run? .outside m rest := run?_cons rfl

lemma run?_margin (depth : Nat) :
    run? .outside m ((margin depth).toList ++ rest) = run? .outside m rest := by
  rw [margin, String.toList_ofList]
  induction 2 * depth with
  | zero => rfl
  | succ n ih => rw [List.replicate_succ, List.cons_append, run?_blank, ih]

/-! ### Quoted texts -/

lemma hexDigits_eq : ∀ n < 0x20,
    hexDigits n = ['0', '0', (n / 16).digitChar, (n % 16).digitChar] := by
  decide

lemma hexDigit?_digitChar : ∀ d < 16, hexDigit? d.digitChar = some d := by
  decide

lemma run?_hexDigits {units : List Nat} {n : Nat} (h : n < 0x20) :
    run? (.hex units 3 0) m (hexDigits n ++ rest) = run? (.text (n :: units)) m rest := by
  have hhigh : Scan.step? (.hex units 1 0) (n / 16).digitChar =
      some ([], .hex units 0 (16 * 0 + n / 16)) := by
    rw [Scan.step?, hexDigit?_digitChar _ (by omega)]
    rfl
  have hlow : Scan.step? (.hex units 0 (16 * 0 + n / 16)) (n % 16).digitChar =
      some ([], .text ((16 * (16 * 0 + n / 16) + n % 16) :: units)) := by
    rw [Scan.step?, hexDigit?_digitChar _ (by omega)]
    rfl
  have hvalue : 16 * (16 * 0 + n / 16) + n % 16 = n := by omega
  rw [hexDigits_eq n h]
  calc run? (.hex units 3 0) m ('0' :: '0' :: (n / 16).digitChar :: (n % 16).digitChar :: rest)
      = run? (.hex units 1 0) m ((n / 16).digitChar :: (n % 16).digitChar :: rest) := rfl
    _ = run? (.text (n :: units)) m rest := by rw [run?_cons hhigh, run?_cons hlow, hvalue]

/-- Every character between quotes is read as itself. -/
lemma run?_quotedChar (units : List Nat) (c : Char) :
    run? (.text units) m (quotedChar c ++ rest) = run? (.text (c.toNat :: units)) m rest := by
  unfold quotedChar
  split_ifs with hquote hslash hback hfeed hline hreturn htab hcontrol
  · rw [hquote]
    rfl
  · rw [hslash]
    rfl
  · rw [hback]
    rfl
  · rw [hfeed]
    rfl
  · rw [hline]
    rfl
  · rw [hreturn]
    rfl
  · rw [htab]
    rfl
  · exact run?_hexDigits hcontrol
  · have hstep : Scan.step? (.text units) c = some ([], .text (c.toNat :: units)) := by
      rw [Scan.step?, if_neg hquote, if_neg hslash, if_neg hcontrol]
    exact run?_cons hstep

lemma run?_quotedChars (units : List Nat) (cs : List Char) :
    run? (.text units) m (cs.flatMap quotedChar ++ rest) =
      run? (.text ((cs.map Char.toNat).reverse ++ units)) m rest := by
  induction cs generalizing units with
  | nil => rfl
  | cons c cs ih =>
    rw [List.flatMap_cons, List.append_assoc, run?_quotedChar, ih]
    simp

/-- No character is half of a surrogate pair. -/
lemma toNat_lt_or_gt (c : Char) : c.toNat < 0xD800 ∨ 0xDFFF < c.toNat := c.valid.imp_right And.left

lemma joinUnits?_map_toNat (cs : List Char) : joinUnits? (cs.map Char.toNat) = some cs := by
  have hhigh (c : Char) : isHighSurrogate c.toNat = false := by
    have := toNat_lt_or_gt c
    simp only [isHighSurrogate, Bool.and_eq_false_iff, decide_eq_false_iff_not]
    omega
  have hlow (c : Char) : isLowSurrogate c.toNat = false := by
    have := toNat_lt_or_gt c
    simp only [isLowSurrogate, Bool.and_eq_false_iff, decide_eq_false_iff_not]
    omega
  induction cs with
  | nil => rfl
  | cons c cs ih =>
    cases cs with
    | nil => simp [joinUnits?, hhigh, hlow]
    | cons d cs =>
      rw [List.map_cons, List.map_cons, joinUnits?, ← List.map_cons, ih]
      simp [hhigh, hlow]

lemma run?_quote {text : String} (hm : m.step? (.scalar (.str text)) = some m') :
    run? .outside m ((quote text).toList ++ rest) = run? .outside m' rest := by
  have htoken : stringToken (text.toList.map Char.toNat).reverse = .scalar (.str text) := by
    rw [stringToken, List.reverse_reverse, joinUnits?_map_toNat]
    simp
  have hclose : Scan.step? (.text (text.toList.map Char.toNat).reverse) '"' =
      some ([.scalar (.str text)], .outside) := by
    rw [Scan.step?, if_pos rfl, htoken]
  have hopen : Scan.step? .outside '"' = some ([], .text []) := rfl
  rw [quote, String.toList_ofList, List.cons_append, run?_cons hopen, List.append_assoc,
    run?_quotedChars, List.append_nil]
  exact run?_token hclose hm

/-! ### Words and numbers -/

/-- What may stand behind a value. -/
def Ends : List Char → Prop
  | [] => True
  | c :: _ => c = ',' ∨ c = '\n'

lemma ends_comma : Ends (',' :: rest) := Or.inl rfl

lemma ends_lineFeed : Ends ('\n' :: rest) := Or.inr rfl

/-- What has no closing mark of its own ends where the value does. -/
lemma run?_pending {t : Token} (hfinish : s.finish? = some [t])
    (hstep : ∀ c, c = ',' ∨ c = '\n' → s.step? c =
      (Scan.start? c).map fun started => (t :: started.1, started.2))
    (hm : m.step? t = some m') (hrest : Ends rest) :
    run? s m rest = run? .outside m' rest := by
  have hsteps (tokens : List Token) : m.steps? (t :: tokens) = m'.steps? tokens := by
    rw [Machine.steps?, List.foldlM_cons, hm]
    rfl
  cases rest with
  | nil =>
    rw [run?, run?, hfinish]
    simp only [hsteps]
    rfl
  | cons c rest =>
    rw [run?, run?, hstep c hrest, Scan.step?]
    cases Scan.start? c with
    | none => rfl
    | some started => simp only [Option.map_some, hsteps]

lemma run?_word {cs : List Char} {j : Json} (hword : wordOf? cs = some j)
    (hm : m.step? (.scalar j) = some m') (hrest : Ends rest) :
    run? .outside m (cs ++ rest) = run? .outside m' rest := by
  have hletters : run? .outside m (cs ++ rest) = run? (.word cs.reverse) m rest := by
    unfold wordOf? at hword
    split_ifs at hword with hnull htrue hfalse
    · rw [hnull]
      rfl
    · rw [htrue]
      rfl
    · rw [hfalse]
      rfl
  have hfinish : Scan.finish? (.word cs.reverse) = some [.scalar j] := by
    rw [Scan.finish?, List.reverse_reverse, hword]
    rfl
  rw [hletters]
  refine run?_pending hfinish ?_ hm hrest
  rintro c (rfl | rfl) <;> simp [Scan.step?, hfinish, Scan.start?]

lemma run?_numberChars {taken cs : List Char} (h : ∀ c ∈ cs, isNumberChar c = true) :
    run? (.number taken) m (cs ++ rest) = run? (.number (cs.reverse ++ taken)) m rest := by
  induction cs generalizing taken with
  | nil => rfl
  | cons c cs ih =>
    have hstep : Scan.step? (.number taken) c = some ([], .number (c :: taken)) := by
      rw [Scan.step?, if_pos (h c List.mem_cons_self)]
    rw [List.cons_append, run?_cons hstep, ih fun d hd => h d (List.mem_cons_of_mem _ hd)]
    simp

lemma isNumberChar_of_isDigit {c : Char} (h : c.isDigit = true) : isNumberChar c = true := by
  simp [isNumberChar, h]

lemma isNumberChar_of_dropWhile {cs : List Char}
    (h : ∀ c ∈ cs.dropWhile Char.isDigit, isNumberChar c = true) :
    ∀ c ∈ cs, isNumberChar c = true := by
  rw [← List.takeWhile_append_dropWhile (p := Char.isDigit) (l := cs), List.forall_mem_append]
  refine ⟨fun c hc => ?_, h⟩
  exact isNumberChar_of_isDigit (List.all_eq_true.mp List.all_takeWhile c hc)

lemma isNumberChar_of_readPower? {cs : List Char} {p : Int} (h : Decimal.readPower? cs = some p) :
    ∀ c ∈ cs, isNumberChar c = true := by
  cases cs with
  | nil => simp
  | cons e cs =>
    rw [Decimal.readPower?] at h
    split_ifs at h with he
    have hdigits : ((Decimal.splitSign cs).2.all Char.isDigit) = true := by
      cases hall : (Decimal.splitSign cs).2.all Char.isDigit with
      | true => rfl
      | false => simp [hall] at h
    have hcs : ∀ c ∈ cs, isNumberChar c = true := by
      have hafter : ∀ c ∈ (Decimal.splitSign cs).2, isNumberChar c = true :=
        fun c hc => isNumberChar_of_isDigit (List.all_eq_true.mp hdigits c hc)
      unfold Decimal.splitSign at hafter
      split at hafter
      · simpa [isNumberChar] using hafter
      · simpa [isNumberChar] using hafter
      · exact hafter
    have hmark : isNumberChar e = true := by
      rcases he with rfl | rfl <;> rfl
    simpa [hmark] using hcs

lemma isNumberChar_of_power? {cs : List Char} {p : Option Int} (h : Number.power? cs = some p) :
    ∀ c ∈ cs, isNumberChar c = true := by
  unfold Number.power? at h
  split_ifs at h with hempty
  · simp [List.isEmpty_iff.mp hempty]
  · obtain ⟨q, hq, -⟩ := Option.map_eq_some_iff.mp h
    exact isNumberChar_of_readPower? hq

lemma isNumberChar_of_fraction? {cs rest fraction : List Char}
    (h : Number.fraction? cs = some (fraction, rest))
    (hrest : ∀ c ∈ rest, isNumberChar c = true) : ∀ c ∈ cs, isNumberChar c = true := by
  unfold Number.fraction? at h
  split at h
  next more =>
    dsimp only at h
    split_ifs at h
    obtain ⟨rfl, rfl⟩ := h
    exact List.forall_mem_cons.mpr ⟨rfl, isNumberChar_of_dropWhile hrest⟩
  next =>
    obtain ⟨-, rfl⟩ := h
    exact hrest

/-- What reads as a number holds nothing else and starts as a number does. -/
lemma chars_of_read? {cs : List Char} {n : Number} (h : Number.read? cs = some n) :
    (∃ c rest, cs = c :: rest ∧ (c = '-' ∨ c.isDigit = true)) ∧
      ∀ c ∈ cs, isNumberChar c = true := by
  unfold Number.read? at h
  simp only [bind, Option.bind_eq_some_iff] at h
  obtain ⟨⟨fraction, rest⟩, hfraction, power, hpower, hwhole⟩ := h
  have hbody : ∀ c ∈ (Number.splitMinus cs).2, isNumberChar c = true :=
    isNumberChar_of_dropWhile (isNumberChar_of_fraction? hfraction (isNumberChar_of_power? hpower))
  have hdigits : ¬((Number.splitMinus cs).2.takeWhile Char.isDigit).isEmpty = true := by
    intro hempty
    simp [hempty] at hwhole
  unfold Number.splitMinus at hbody hdigits
  split at hbody
  next rest => exact ⟨⟨'-', rest, rfl, Or.inl rfl⟩, List.forall_mem_cons.mpr ⟨rfl, hbody⟩⟩
  next =>
    refine ⟨?_, hbody⟩
    cases cs with
    | nil => exact absurd rfl hdigits
    | cons c rest =>
      refine ⟨c, rest, rfl, Or.inr ?_⟩
      cases hc : c.isDigit with
      | true => rfl
      | false => simp [hc] at hdigits

lemma start?_of_number {c : Char} (h : c = '-' ∨ c.isDigit = true) :
    Scan.start? c = some ([], .number [c]) := by
  rcases h with rfl | h
  · rfl
  · unfold Scan.start?
    split <;> first | cases h | simp [h]

lemma run?_number {cs : List Char} {n : Number} (hn : Number.read? cs = some n)
    (hm : m.step? (.scalar n.toJson) = some m') (hrest : Ends rest) :
    run? .outside m (cs ++ rest) = run? .outside m' rest := by
  obtain ⟨⟨c, more, rfl, hc⟩, hchars⟩ := chars_of_read? hn
  have hstart : Scan.step? .outside c = some ([], .number [c]) := start?_of_number hc
  have hfinish : Scan.finish? (.number (more.reverse ++ [c])) = some [.scalar n.toJson] := by
    have hcs : (more.reverse ++ [c]).reverse = c :: more := by simp
    rw [Scan.finish?, hcs, hn]
    rfl
  rw [List.cons_append, run?_cons hstart,
    run?_numberChars fun d hd => hchars d (List.mem_cons_of_mem _ hd)]
  refine run?_pending hfinish ?_ hm hrest
  rintro c (rfl | rfl) <;> simp [Scan.step?, hfinish, Scan.start?, isNumberChar]

/-! ### Brackets -/

/-- How the machine goes through a bracket: its states in front of an entry and behind it, by the
entries that it has read, newest first, and where it is behind the whole. -/
structure Passage (α : Type) where
  opening : Char
  closing : Char
  entry : α → String
  start : Machine
  before : List α → Machine
  after : List α → Machine
  finish : List α → Machine

/-- The states of the passage follow each other. -/
structure Passage.Valid {α : Type} (p : Passage α) (entries : List α) : Prop where
  opens : ∀ {rest}, run? .outside p.start (p.opening :: rest) = run? .outside (p.before []) rest
  reads : ∀ a ∈ entries, ∀ read {rest}, Ends rest →
    run? .outside (p.before read) ((p.entry a).toList ++ rest) =
      run? .outside (p.after (a :: read)) rest
  separates : ∀ {read rest}, read ≠ [] →
    run? .outside (p.after read) (',' :: rest) = run? .outside (p.before read) rest
  closes : ∀ {read rest}, read ≠ [] →
    run? .outside (p.after read) (p.closing :: rest) = run? .outside (p.finish read.reverse) rest
  closesEmpty : ∀ {rest},
    run? .outside (p.before []) (p.closing :: rest) = run? .outside (p.finish []) rest

namespace Passage

variable {α : Type} {p : Passage α} {entries : List α}

/-- Run: over the lines of a bracket the machine reads all entries. -/
lemma Valid.run?_lines (h : p.Valid entries) (hne : entries ≠ []) (depth : Nat) (read : List α) :
    run? .outside (p.before read)
        ((",\n".intercalate ((entries.map p.entry).map (margin depth ++ ·))).toList ++ '\n' :: rest) =
      run? .outside (p.after (entries.reverse ++ read)) ('\n' :: rest) := by
  induction entries generalizing read with
  | nil => exact absurd rfl hne
  | cons a entries ih =>
    cases entries with
    | nil =>
      rw [List.map_singleton, List.map_singleton, String.intercalate_singleton, String.toList_append,
        List.append_assoc, run?_margin, h.reads a List.mem_cons_self read ends_lineFeed]
      rfl
    | cons b entries =>
      have hrest : p.Valid (b :: entries) :=
        { h with reads := fun c hc => h.reads c (List.mem_cons_of_mem _ hc) }
      have htext : (",\n".intercalate
          (((a :: b :: entries).map p.entry).map (margin depth ++ ·))).toList ++ '\n' :: rest =
          (margin depth).toList ++ ((p.entry a).toList ++ ',' :: '\n' :: ((",\n".intercalate
            (((b :: entries).map p.entry).map (margin depth ++ ·))).toList ++ '\n' :: rest)) := by
        simp [String.intercalate_cons_cons]
      rw [htext, run?_margin, h.reads a List.mem_cons_self read ends_comma,
        h.separates (List.cons_ne_nil a read), run?_lineFeed, ih hrest (List.cons_ne_nil b entries)]
      simp

lemma Valid.run?_bracket (h : p.Valid entries) (depth : Nat) :
    run? .outside p.start
        ((bracket (.singleton p.opening) (.singleton p.closing) depth
          (entries.map p.entry)).toList ++ rest) =
      run? .outside (p.finish entries) rest := by
  cases entries with
  | nil =>
    have htext : (bracket (.singleton p.opening) (.singleton p.closing) depth
        (([] : List α).map p.entry)).toList ++ rest = p.opening :: p.closing :: rest := by
      simp [bracket]
    rw [htext, h.opens, h.closesEmpty]
  | cons a entries =>
    have hne : a :: entries ≠ [] := List.cons_ne_nil a entries
    have htext : (bracket (.singleton p.opening) (.singleton p.closing) depth
        ((a :: entries).map p.entry)).toList ++ rest =
        p.opening :: '\n' :: ((",\n".intercalate
          (((a :: entries).map p.entry).map (margin (depth + 1) ++ ·))).toList ++ '\n' ::
            ((margin depth).toList ++ p.closing :: rest)) := by
      simp [bracket]
    rw [htext, h.opens, run?_lineFeed, h.run?_lines hne (depth + 1) [], run?_lineFeed, run?_margin,
      List.append_nil, h.closes (List.reverse_ne_nil_iff.mpr hne), List.reverse_reverse]

end Passage

/-! ### Values -/

/-- The machine expects a value. -/
def Machine.Awaits (m : Machine) : Prop := m.expect = .value ∨ m.expect = .valueOrClose

lemma step?_of_awaits (hm : m.Awaits) {t : Token} (ht : t ≠ .closeArray) :
    m.step? t = Machine.value? m.stack t := by
  unfold Machine.step?
  rcases hm with hm | hm
  · rw [hm]
  · rw [hm]
    cases t <;> first | rfl | exact absurd rfl ht

lemma step?_scalar (hm : m.Awaits) (j : Json) :
    m.step? (.scalar j) = some (.complete m.stack j) :=
  step?_of_awaits hm nofun

/-- The way through an array. -/
def arrayPassage (depth : Nat) (m : Machine) : Passage Json where
  opening := '['
  closing := ']'
  entry := render depth
  start := m
  before read := ⟨.array read :: m.stack, if read.isEmpty then .valueOrClose else .value, .null⟩
  after read := ⟨.array read :: m.stack, .commaOrClose, .null⟩
  finish items := .complete m.stack (.arr items)

/-- The way through an object. The innermost frame keeps the key that was read last. -/
def objectPassage (depth : Nat) (m : Machine) : Passage (String × Json) where
  opening := '\x7b'
  closing := '\x7d'
  entry e := quote e.1 ++ ": " ++ render depth e.2
  start := m
  before read :=
    ⟨.object read ((read.head?.map Prod.fst).getD "") true :: m.stack,
      if read.isEmpty then .keyOrClose else .key, .null⟩
  after read :=
    ⟨.object read ((read.head?.map Prod.fst).getD "") true :: m.stack, .commaOrClose, .null⟩
  finish members := .complete m.stack (.obj members)

end Reader

open Reader

/-- A value whose numbers are written with digits that read as themselves. -/
inductive Legible : Json → Prop
  | null : Legible .null
  | bool (b : Bool) : Legible (.bool b)
  | str (s : String) : Legible (.str s)
  | num {x : Float} {n : Number} (hread : Number.read? (Decimal.json x).toList = some n)
    (hn : n.toJson = .num x) : Legible (.num x)
  | arr {items : List Json} (h : ∀ j ∈ items, Legible j) : Legible (.arr items)
  | obj {members : List (String × Json)} (h : ∀ e ∈ members, Legible e.2) : Legible (.obj members)

lemma renderItems_eq (depth : Nat) (items : List Json) :
    renderItems depth items = items.map (render depth) := by
  induction items with
  | nil => rfl
  | cons j items ih => rw [renderItems, ih, List.map_cons]

lemma renderMembers_eq (depth : Nat) (members : List (String × Json)) :
    renderMembers depth members =
      members.map fun e => quote e.1 ++ ": " ++ render depth e.2 := by
  induction members with
  | nil => rfl
  | cons e members ih => rw [renderMembers, ih, List.map_cons]

/-- A value that the reader completes wherever it stands. -/
def Completes (j : Json) : Prop :=
  ∀ (depth : Nat) {m : Machine} {rest : List Char}, m.Awaits → Ends rest →
    run? .outside m ((render depth j).toList ++ rest) = run? .outside (.complete m.stack j) rest

lemma arrayPassage_valid {items : List Json} (h : ∀ j ∈ items, Completes j) (depth : Nat)
    {m : Machine} (hm : m.Awaits) : (arrayPassage depth m).Valid items where
  opens := run?_token rfl (step?_of_awaits hm nofun)
  reads j hj read _ hrest := by
    have hawaits : ((arrayPassage depth m).before read).Awaits := by
      cases read with
      | nil => exact Or.inr rfl
      | cons a read => exact Or.inl rfl
    exact h j hj depth hawaits hrest
  separates {read _} hread := by
    cases read with
    | nil => exact absurd rfl hread
    | cons a read => exact run?_token rfl rfl
  closes _ := run?_token rfl rfl
  closesEmpty := run?_token rfl rfl

lemma objectPassage_valid {members : List (String × Json)} (h : ∀ e ∈ members, Completes e.2)
    (depth : Nat) {m : Machine} (hm : m.Awaits) : (objectPassage depth m).Valid members where
  opens := run?_token rfl (step?_of_awaits hm nofun)
  reads e he read rest hrest := by
    have htext : ((objectPassage depth m).entry e).toList ++ rest =
        (quote e.1).toList ++ ':' :: ' ' :: ((render depth e.2).toList ++ rest) := by
      simp [objectPassage]
    have hkey : ((objectPassage depth m).before read).step? (.scalar (.str e.1)) =
        some ⟨.object read e.1 true :: m.stack, .colon, .null⟩ := by
      cases read <;> rfl
    have hcolon : Machine.step? ⟨.object read e.1 true :: m.stack, .colon, .null⟩ .colon =
        some ⟨.object read e.1 true :: m.stack, .value, .null⟩ := rfl
    rw [htext, run?_quote hkey, run?_token rfl hcolon, run?_blank]
    exact h e he depth (Or.inl rfl) hrest
  separates {read _} hread := by
    cases read with
    | nil => exact absurd rfl hread
    | cons a read => exact run?_token rfl rfl
  closes _ := run?_token rfl rfl
  closesEmpty := run?_token rfl rfl

theorem Legible.completes {j : Json} (h : j.Legible) : j.Completes := by
  induction h with
  | null =>
    intro depth m rest hm hrest
    rw [render]
    exact run?_word rfl (step?_scalar hm .null) hrest
  | bool b =>
    intro depth m rest hm hrest
    cases b with
    | true =>
      rw [render]
      exact run?_word rfl (step?_scalar hm (.bool true)) hrest
    | false =>
      rw [render]
      exact run?_word rfl (step?_scalar hm (.bool false)) hrest
  | str s =>
    intro depth m rest hm hrest
    exact run?_quote (step?_scalar hm (.str s))
  | num hread hn =>
    intro depth m rest hm hrest
    exact run?_number hread (hn ▸ step?_scalar hm _) hrest
  | @arr items _ ih =>
    intro depth m rest hm hrest
    rw [render, renderItems_eq]
    exact (arrayPassage_valid ih (depth + 1) hm).run?_bracket depth
  | @obj members _ ih =>
    intro depth m rest hm hrest
    rw [render, renderMembers_eq]
    exact (objectPassage_valid ih (depth + 1) hm).run?_bracket depth

/-- A written document reads as the value that was written. -/
theorem parse?_pretty {j : Json} (h : j.Legible) : parse? j.pretty = some j := by
  have hrun : run? .outside .initial ((render 0 j).toList ++ []) =
      run? .outside (.complete [] j) [] := h.completes 0 (Or.inl rfl) trivial
  rw [List.append_nil] at hrun
  unfold parse? pretty
  rw [hrun]
  rfl

end MbedBlocks.Json
