import Mathlib.Tactic.Lemma
import Mathlib.Tactic.SplitIfs

/-!
# Reading brackets and string literals

A reader of program text keeps the brackets that are open and knows whether it is inside a string
literal. A text is balanced if it takes the reader back to where it began. Whatever is open around a
balanced text stays open, so balanced texts may be put together, indented and spliced in anywhere
outside literals.
-/

namespace MbedBlocks.Lexical

inductive Bracket where
  | round
  | square
  | curly
deriving DecidableEq, Repr

/-- What a character means to the reader. -/
inductive Sign where
  | opening (b : Bracket)
  | closing (b : Bracket)
  | quote
  | backslash
  | comma
  | newline
  | other
deriving DecidableEq, Repr

def sign : Char → Sign
  | '(' => .opening .round
  | ')' => .closing .round
  | '[' => .opening .square
  | ']' => .closing .square
  | '\x7b' => .opening .curly
  | '\x7d' => .closing .curly
  | '"' => .quote
  | '\\' => .backslash
  | ',' => .comma
  | '\n' => .newline
  | _ => .other

/-- Whether the reader is outside literals, inside one, or behind a backslash there. -/
inductive Mode where
  | code
  | literal
  | escape
deriving DecidableEq, Repr

/-- The open brackets, innermost first, and the mode. -/
structure State where
  stack : List Bracket := []
  mode : Mode := .code
deriving DecidableEq, Repr

/-- Reads one character. A closing bracket must match, no line ends inside a literal, and a text
that is to be a single argument has no comma outside its brackets. -/
def step (single : Bool) : State → Sign → Option State
  | ⟨stack, .code⟩, .opening b => some ⟨b :: stack, .code⟩
  | ⟨[], .code⟩, .closing _ => none
  | ⟨top :: stack, .code⟩, .closing b => if top = b then some ⟨stack, .code⟩ else none
  | ⟨stack, .code⟩, .quote => some ⟨stack, .literal⟩
  | ⟨stack, .code⟩, .comma => if stack.isEmpty && single then none else some ⟨stack, .code⟩
  | ⟨stack, .code⟩, .backslash => some ⟨stack, .code⟩
  | ⟨stack, .code⟩, .newline => some ⟨stack, .code⟩
  | ⟨stack, .code⟩, .other => some ⟨stack, .code⟩
  | ⟨stack, .literal⟩, .quote => some ⟨stack, .code⟩
  | ⟨stack, .literal⟩, .backslash => some ⟨stack, .escape⟩
  | ⟨_, .literal⟩, .newline => none
  | ⟨stack, .literal⟩, _ => some ⟨stack, .literal⟩
  | ⟨_, .escape⟩, .newline => none
  | ⟨stack, .escape⟩, _ => some ⟨stack, .literal⟩

def next (single : Bool) (s : Option State) (c : Char) : Option State :=
  s.bind fun s => step single s (sign c)

/-- Reads a text. -/
def scan (single : Bool) (s : Option State) (cs : List Char) : Option State :=
  cs.foldl (next single) s

/-- The text takes the reader back to where it began. -/
def Neutral (single : Bool) (text : String) : Prop := scan single (some {}) text.toList = some {}

/-- All brackets outside string literals are balanced, and every literal is closed on the line where
it opens. -/
abbrev Balanced : String → Prop := Neutral false

/-- Balanced, and without a comma outside brackets and literals. -/
abbrev Single : String → Prop := Neutral true

instance (single : Bool) (text : String) : Decidable (Neutral single text) :=
  inferInstanceAs (Decidable (scan single (some {}) text.toList = some {}))

/-- No bracket, quote, backslash, comma or line break. -/
def Plain (text : String) : Prop := ∀ c ∈ text.toList, sign c = .other

instance (text : String) : Decidable (Plain text) :=
  List.decidableBAll (fun c => sign c = .other) text.toList

section Scanning

variable {single : Bool}

@[simp] lemma scan_nil (s : Option State) : scan single s [] = s := rfl

@[simp] lemma scan_cons (s : Option State) (c : Char) (cs : List Char) :
    scan single s (c :: cs) = scan single (next single s c) cs := rfl

lemma scan_append (s : Option State) (cs ds : List Char) :
    scan single s (cs ++ ds) = scan single (scan single s cs) ds := List.foldl_append

@[simp] lemma scan_none (cs : List Char) : scan single none cs = none := by
  induction cs with
  | nil => rfl
  | cons c cs ih => exact ih

lemma next_some (s : State) (c : Char) : next single (some s) c = step single s (sign c) := rfl

/-- A text that is read to its end has a state before each character. -/
lemma exists_step {s s' : State} {c : Char} {cs : List Char}
    (h : scan single (some s) (c :: cs) = some s') :
    ∃ s₁, step single s (sign c) = some s₁ ∧ scan single (some s₁) cs = some s' := by
  rw [scan_cons, next_some] at h
  cases hstep : step single s (sign c) with
  | none =>
    rw [hstep, scan_none] at h
    cases h
  | some s₁ => exact ⟨s₁, rfl, hstep ▸ h⟩

/-- Step of the frame: what is open further out does not matter, nor does a comma there. -/
lemma step_frame {single' : Bool} (hsingle : single' = true → single = true) {s s' : State}
    {x : Sign} (h : step single s x = some s') (base : List Bracket) :
    step single' ⟨s.stack ++ base, s.mode⟩ x = some ⟨s'.stack ++ base, s'.mode⟩ := by
  obtain ⟨stack, mode⟩ := s
  cases mode with
  | code =>
    cases x with
    | closing b =>
      cases stack with
      | nil => cases h
      | cons top stack =>
        simp only [step] at h
        split_ifs at h with htop
        obtain rfl : (⟨stack, .code⟩ : State) = s' := Option.some.inj h
        exact if_pos htop
    | comma =>
      simp only [step] at h
      split_ifs at h with hcomma
      obtain rfl : (⟨stack, .code⟩ : State) = s' := Option.some.inj h
      refine if_neg fun houter => hcomma ?_
      cases stack with
      | nil => exact hsingle (Bool.and_eq_true_iff.mp houter).2
      | cons top stack => exact houter
    | _ => cases h; rfl
  | literal => cases x <;> cases h <;> rfl
  | escape => cases x <;> cases h <;> rfl

/-- Run of the frame. -/
lemma scan_frame {single' : Bool} (hsingle : single' = true → single = true) {s s' : State}
    {cs : List Char} (h : scan single (some s) cs = some s') (base : List Bracket) :
    scan single' (some ⟨s.stack ++ base, s.mode⟩) cs = some ⟨s'.stack ++ base, s'.mode⟩ := by
  induction cs generalizing s with
  | nil =>
    obtain rfl : s = s' := Option.some.inj h
    rfl
  | cons c cs ih =>
    obtain ⟨s₁, hstep, hrest⟩ := exists_step h
    rw [scan_cons, next_some, step_frame hsingle hstep base]
    exact ih hrest

/-- What has been read before a point of a text that is read to its end. -/
lemma exists_scan {s s' : State} {cs ds : List Char}
    (h : scan single (some s) (cs ++ ds) = some s') :
    ∃ s₁, scan single (some s) cs = some s₁ ∧ scan single (some s₁) ds = some s' := by
  rw [scan_append] at h
  cases hcs : scan single (some s) cs with
  | none =>
    rw [hcs, scan_none] at h
    cases h
  | some s₁ => exact ⟨s₁, rfl, hcs ▸ h⟩

/-- Outside literals all characters without a meaning are skipped, and so are line breaks. -/
lemma scan_skip {stack : List Bracket} {cs : List Char}
    (h : ∀ c ∈ cs, sign c = .other ∨ sign c = .newline) :
    scan single (some ⟨stack, .code⟩) cs = some ⟨stack, .code⟩ := by
  induction cs with
  | nil => rfl
  | cons c cs ih =>
    have hstep : step single ⟨stack, .code⟩ (sign c) = some ⟨stack, .code⟩ := by
      rcases h c List.mem_cons_self with hc | hc <;> rw [hc] <;> rfl
    rw [scan_cons, next_some, hstep]
    exact ih fun d hd => h d (List.mem_cons_of_mem c hd)

/-- A line that is read to its end leaves no literal open. -/
lemma mode_of_newline {s s' : State} {cs : List Char}
    (h : scan single (some s) (cs ++ ['\n']) = some s') : s'.mode = .code := by
  obtain ⟨⟨stack, mode⟩, -, hlast⟩ := exists_scan h
  cases mode <;> cases hlast
  rfl

end Scanning

/-! ### Balanced texts -/

section Neutral

variable {single : Bool} {s t : String}

lemma Neutral.scan (h : Neutral single t) (stack : List Bracket) :
    Lexical.scan single (some ⟨stack, .code⟩) t.toList = some ⟨stack, .code⟩ :=
  scan_frame (fun h => h) h stack

lemma Neutral.balanced (h : Neutral single t) : Balanced t :=
  scan_frame (by simp) h []

lemma Single.neutral (h : Single t) : Neutral single t :=
  scan_frame (fun _ => rfl) h []

lemma neutral_empty : Neutral single "" := rfl

/-- A literal is read as it stands. -/
lemma neutral_literal {cs : List Char} (h : Lexical.scan single (some {}) cs = some {}) :
    Neutral single (String.ofList cs) := by
  rw [Neutral, String.toList_ofList]
  exact h

lemma Neutral.append (hs : Neutral single s) (ht : Neutral single t) : Neutral single (s ++ t) := by
  rw [Neutral, String.toList_append, scan_append, hs.scan, ht.scan]

lemma neutral_join {texts : List String} (h : ∀ t ∈ texts, Neutral single t) :
    Neutral single (String.join texts) := by
  induction texts with
  | nil => exact neutral_empty
  | cons t texts ih =>
    rw [String.join_cons]
    exact (h t List.mem_cons_self).append (ih fun u hu => h u (List.mem_cons_of_mem t hu))

lemma neutral_intercalate {separator : String} {texts : List String}
    (hseparator : Neutral single separator) (h : ∀ t ∈ texts, Neutral single t) :
    Neutral single (separator.intercalate texts) := by
  induction texts with
  | nil =>
    rw [String.intercalate_nil]
    exact neutral_empty
  | cons t texts ih =>
    have ht := h t List.mem_cons_self
    have hrest := ih fun u hu => h u (List.mem_cons_of_mem t hu)
    cases texts with
    | nil =>
      rw [String.intercalate_singleton]
      exact ht
    | cons u texts =>
      rw [String.intercalate_cons_cons]
      exact (ht.append hseparator).append hrest

lemma Plain.neutral (h : Plain t) : Neutral single t := scan_skip fun c hc => .inl (h c hc)

end Neutral

end MbedBlocks.Lexical
