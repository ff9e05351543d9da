import Mathlib.Tactic.Lemma

/-!
# The grammar of expressions

Trees of C expressions and the grammar that reads token lists as trees: binary operators that group
to the left in six levels, prefix operators, calls, and primary expressions. The grammar is
unambiguous: a token list has at most one tree, whatever the level it is read at.
-/

namespace MbedBlocks.Proofs

/-- The levels of the grammar, loosest first. -/
inductive Nonterminal where
  | disjunction
  | conjunction
  | equality
  | relation
  | sum
  | product
  | unary
  | applied
  | primary
deriving DecidableEq, Repr

inductive BinaryOp where
  | or
  | and
  | equal
  | notEqual
  | less
  | lessEqual
  | greater
  | greaterEqual
  | add
  | sub
  | mul
  | div
  | mod
deriving DecidableEq, Repr

inductive UnaryOp where
  | not
  | neg
deriving DecidableEq, Repr

inductive Token where
  | number (digits : String)
  | name (text : String)
  | operator (op : BinaryOp)
  | bang
  | opening
  | closing
  | comma
deriving DecidableEq, Repr

inductive Expr where
  | number (digits : String)
  | name (text : String)
  | unary (op : UnaryOp) (e : Expr)
  | binary (op : BinaryOp) (left right : Expr)
  | call (f : Expr) (args : List Expr)
deriving Repr

namespace Nonterminal

def rank : Nonterminal → Nat
  | disjunction => 0
  | conjunction => 1
  | equality => 2
  | relation => 3
  | sum => 4
  | product => 5
  | unary => 6
  | applied => 7
  | primary => 8

/-- The level of the right operands of a level, and of what stands alone on it. -/
def next : Nonterminal → Nonterminal
  | disjunction => conjunction
  | conjunction => equality
  | equality => relation
  | relation => sum
  | sum => product
  | product => unary
  | unary => applied
  | applied => primary
  | primary => primary

lemma rank_injective {n k : Nonterminal} (h : n.rank = k.rank) : n = k := by
  cases n <;> cases k <;> first | rfl | cases h

lemma rank_le (n : Nonterminal) : n.rank ≤ primary.rank := by
  cases n <;> decide

lemma rank_next {n : Nonterminal} (h : n ≠ primary) : n.next.rank = n.rank + 1 := by
  cases n <;> first | rfl | exact absurd rfl h

end Nonterminal

def BinaryOp.level : BinaryOp → Nonterminal
  | or => .disjunction
  | and => .conjunction
  | equal => .equality
  | notEqual => .equality
  | less => .relation
  | lessEqual => .relation
  | greater => .relation
  | greaterEqual => .relation
  | add => .sum
  | sub => .sum
  | mul => .product
  | div => .product
  | mod => .product

/-- A minus sign is one token, whether it has one operand or two. -/
def UnaryOp.token : UnaryOp → Token
  | not => .bang
  | neg => .operator .sub

/-- The tokens of arguments with commas between them. -/
def separated (args : List (List Token)) : List Token := List.intercalate [.comma] args

/-- The grammar: a token list derives a tree at a level. -/
inductive Derives : Nonterminal → List Token → Expr → Prop where
  | number (digits : String) : Derives .primary [.number digits] (.number digits)
  | name (text : String) : Derives .primary [.name text] (.name text)
  | parens {ts : List Token} {e : Expr} (h : Derives .disjunction ts e) :
      Derives .primary (.opening :: (ts ++ [.closing])) e
  | call {ts : List Token} {f : Expr} (args : List (List Token × Expr))
      (hf : Derives .applied ts f) (hargs : ∀ a ∈ args, Derives .disjunction a.1 a.2) :
      Derives .applied (ts ++ .opening :: (separated (args.map Prod.fst) ++ [.closing]))
        (.call f (args.map Prod.snd))
  | unary (op : UnaryOp) {ts : List Token} {e : Expr} (h : Derives .unary ts e) :
      Derives .unary (op.token :: ts) (.unary op e)
  | binary (op : BinaryOp) {ts us : List Token} {a b : Expr} (ha : Derives op.level ts a)
      (hb : Derives op.level.next us b) :
      Derives op.level (ts ++ .operator op :: us) (.binary op a b)
  | alone {n : Nonterminal} {ts : List Token} {e : Expr} (h : Derives n.next ts e) :
      Derives n ts e

lemma Derives.loosen {n : Nonterminal} {ts : List Token} {e : Expr} (h : Derives n ts e)
    {k : Nonterminal} (hk : k.rank ≤ n.rank) : Derives k ts e := by
  -- Downward from `n`, one level at a time.
  obtain ⟨d, hd⟩ := Nat.exists_eq_add_of_le hk
  induction d generalizing k with
  | zero => exact Nonterminal.rank_injective hd ▸ h
  | succ d ih =>
    have hprimary : k ≠ .primary := by
      rintro rfl
      have := n.rank_le
      omega
    have hnext := Nonterminal.rank_next hprimary
    exact .alone (ih (by omega) (by omega))

/-- The level at which a token continues an expression that stands before it. -/
def Token.continues : Token → Option Nonterminal
  | operator op => some op.level
  | opening => some .applied
  | _ => none

/-- The tokens that a tree can begin with. -/
def Token.Starts (n : Nonterminal) : Token → Prop
  | number _ => True
  | name _ => True
  | opening => True
  | bang => n.rank ≤ Nonterminal.unary.rank
  | operator op => op = .sub ∧ n.rank ≤ Nonterminal.unary.rank
  | _ => False

lemma Derives.starts {n : Nonterminal} {ts : List Token} {e : Expr} (h : Derives n ts e) :
    ∃ t us, ts = t :: us ∧ t.Starts n := by
  induction h with
  | number digits => exact ⟨_, _, rfl, trivial⟩
  | name text => exact ⟨_, _, rfl, trivial⟩
  | parens h _ => exact ⟨_, _, rfl, trivial⟩
  | call args _ _ ih _ =>
    obtain ⟨t, us, rfl, ht⟩ := ih
    exact ⟨t, _, rfl, ht⟩
  | unary op _ _ =>
    refine ⟨_, _, rfl, ?_⟩
    cases op <;> simp [UnaryOp.token, Token.Starts]
  | binary op _ _ ih _ =>
    obtain ⟨t, us, rfl, ht⟩ := ih
    exact ⟨t, _, rfl, ht⟩
  | @alone n ts e _ ih =>
    obtain ⟨t, us, rfl, ht⟩ := ih
    refine ⟨t, us, rfl, ?_⟩
    have hn : n.rank ≤ n.next.rank := by cases n <;> decide
    cases t with
    | number | name | opening => trivial
    | bang => exact Nat.le_trans hn ht
    | operator op => exact ⟨ht.1, Nat.le_trans hn ht.2⟩
    | closing | comma => exact ht.elim

/-! ### Reading from left to right -/

/-- Where a reader stands: before an expression of a level, behind one that operators of the level
may continue, or behind some arguments of a call. -/
inductive Stage where
  | before (n : Nonterminal)
  | behind (n : Nonterminal) (e : Expr)
  | within (f : Expr) (args : List Expr)

/-- `Reading s ts e rest`: from stage `s` the tokens `ts` are read up to `rest`, and give `e`. Each
step is decided by the next token. -/
inductive Reading : Stage → List Token → Expr → List Token → Prop where
  | number (digits : String) (rest : List Token) :
      Reading (.before .primary) (.number digits :: rest) (.number digits) rest
  | name (text : String) (rest : List Token) :
      Reading (.before .primary) (.name text :: rest) (.name text) rest
  | parens {ts rest : List Token} {e : Expr}
      (h : Reading (.before .disjunction) ts e (.closing :: rest)) :
      Reading (.before .primary) (.opening :: ts) e rest
  | unary (op : UnaryOp) {t : Token} {ts rest : List Token} {e : Expr} (ht : op.token = t)
      (h : Reading (.before .unary) ts e rest) :
      Reading (.before .unary) (t :: ts) (.unary op e) rest
  | plain {ts rest : List Token} {e : Expr} (hts : ∀ op us, ts ≠ UnaryOp.token op :: us)
      (h : Reading (.before .applied) ts e rest) : Reading (.before .unary) ts e rest
  | first {n : Nonterminal} {ts mid rest : List Token} {a e : Expr} (hu : n ≠ .unary)
      (hp : n ≠ .primary) (ha : Reading (.before n.next) ts a mid)
      (h : Reading (.behind n a) mid e rest) : Reading (.before n) ts e rest
  | stop {n : Nonterminal} {ts : List Token} (e : Expr)
      (hts : ∀ t us, ts = t :: us → t.continues ≠ some n) : Reading (.behind n e) ts e ts
  | operator (op : BinaryOp) {n : Nonterminal} {ts mid rest : List Token} {a b e : Expr}
      (hn : op.level = n) (hb : Reading (.before n.next) ts b mid)
      (h : Reading (.behind n (.binary op a b)) mid e rest) :
      Reading (.behind n a) (.operator op :: ts) e rest
  | empty {ts rest : List Token} {f e : Expr}
      (h : Reading (.behind .applied (.call f [])) ts e rest) :
      Reading (.behind .applied f) (.opening :: .closing :: ts) e rest
  | argument {ts mid rest : List Token} {f a e : Expr} (hts : ∀ us, ts ≠ .closing :: us)
      (ha : Reading (.before .disjunction) ts a mid) (h : Reading (.within f [a]) mid e rest) :
      Reading (.behind .applied f) (.opening :: ts) e rest
  | more {ts mid rest : List Token} {f a e : Expr} {args : List Expr}
      (ha : Reading (.before .disjunction) ts a mid)
      (h : Reading (.within f (args ++ [a])) mid e rest) :
      Reading (.within f args) (.comma :: ts) e rest
  | finish {ts rest : List Token} {f e : Expr} {args : List Expr}
      (h : Reading (.behind .applied (.call f args)) ts e rest) :
      Reading (.within f args) (.closing :: ts) e rest

lemma UnaryOp.token_injective {op op' : UnaryOp} (h : op.token = op'.token) : op = op' := by
  cases op <;> cases op' <;> first | rfl | cases h

theorem Reading.deterministic {s : Stage} {ts rest rest' : List Token} {e e' : Expr}
    (h : Reading s ts e rest) (h' : Reading s ts e' rest') : e = e' ∧ rest = rest' := by
  induction h generalizing e' rest' with
  | number =>
    cases h' with
    | number => exact ⟨rfl, rfl⟩
    | first _ hp => exact absurd rfl hp
  | name =>
    cases h' with
    | name => exact ⟨rfl, rfl⟩
    | first _ hp => exact absurd rfl hp
  | parens _ ih =>
    cases h' with
    | parens h =>
      obtain ⟨rfl, hrest⟩ := ih h
      exact ⟨rfl, List.tail_eq_of_cons_eq hrest⟩
    | first _ hp => exact absurd rfl hp
  | unary op ht _ ih =>
    cases h' with
    | unary op' ht' h =>
      obtain ⟨rfl, rfl⟩ := ih h
      exact ⟨by rw [UnaryOp.token_injective (ht.trans ht'.symm)], rfl⟩
    | plain hts => exact absurd (by rw [ht]) (hts op _)
    | first hu => exact absurd rfl hu
  | plain hts _ ih =>
    cases h' with
    | unary op ht => exact absurd (by rw [ht]) (hts op _)
    | plain _ h => exact ih h
    | first hu => exact absurd rfl hu
  | first hu hp _ _ iha ih =>
    cases h' with
    | number | name | parens => exact absurd rfl hp
    | unary | plain => exact absurd rfl hu
    | first _ _ ha h =>
      obtain ⟨rfl, rfl⟩ := iha ha
      exact ih h
  | stop e hts =>
    cases h' with
    | stop => exact ⟨rfl, rfl⟩
    | operator op hn => exact absurd (congrArg some hn) (hts _ _ rfl)
    | empty | argument => exact absurd rfl (hts _ _ rfl)
  | operator op hn _ _ ihb ih =>
    cases h' with
    | stop _ hts => exact absurd (congrArg some hn) (hts _ _ rfl)
    | operator _ _ hb h =>
      obtain ⟨rfl, rfl⟩ := ihb hb
      exact ih h
  | empty _ ih =>
    cases h' with
    | stop _ hts => exact absurd rfl (hts _ _ rfl)
    | empty h => exact ih h
    | argument hts => exact absurd rfl (hts _)
  | argument hts _ _ iha ih =>
    cases h' with
    | stop _ hts => exact absurd rfl (hts _ _ rfl)
    | empty => exact absurd rfl (hts _)
    | argument _ ha h =>
      obtain ⟨rfl, rfl⟩ := iha ha
      exact ih h
  | more _ _ iha ih =>
    cases h' with
    | more ha h =>
      obtain ⟨rfl, rfl⟩ := iha ha
      exact ih h
  | finish _ ih =>
    cases h' with
    | finish h => exact ih h

/-- The next token continues no level tighter than `n`. -/
def Bounded (n : Nonterminal) (ts : List Token) : Prop :=
  ∀ t us l, ts = t :: us → t.continues = some l → l.rank ≤ n.rank

lemma bounded_cons {n : Nonterminal} {t : Token} (ts : List Token)
    (h : ∀ l, t.continues = some l → l.rank ≤ n.rank) : Bounded n (t :: ts) := by
  intro t' us l hts hl
  obtain ⟨rfl, rfl⟩ := List.cons.inj hts
  exact h l hl

lemma Bounded.mono {n k : Nonterminal} {ts : List Token} (h : Bounded n ts)
    (hk : n.rank ≤ k.rank) : Bounded k ts :=
  fun t us l hts hl => Nat.le_trans (h t us l hts hl) hk

lemma Bounded.stop {n k : Nonterminal} {ts : List Token} (h : Bounded n ts)
    (hk : n.rank < k.rank) (e : Expr) : Reading (.behind k e) ts e ts := by
  refine .stop e fun t us hts hl => ?_
  have := h t us k hts hl
  omega

/-- The next token continues no expression at all. -/
def Ended (ts : List Token) : Prop := ∀ t us, ts = t :: us → t.continues = none

lemma ended_nil : Ended [] := by
  intro t us h
  cases h

lemma ended_cons {t : Token} (ts : List Token) (h : t.continues = none) : Ended (t :: ts) := by
  intro t' us hts
  obtain ⟨rfl, rfl⟩ := List.cons.inj hts
  exact h

lemma Ended.bounded {ts : List Token} (h : Ended ts) (n : Nonterminal) : Bounded n ts := by
  intro t us l hts hl
  rw [h t us hts] at hl
  cases hl

lemma Ended.stop {ts : List Token} (h : Ended ts) (n : Nonterminal) (e : Expr) :
    Reading (.behind n e) ts e ts := by
  refine .stop e fun t us hts hl => ?_
  rw [h t us hts] at hl
  cases hl

/-- Nothing continues an expression at a level without operators of its own. -/
lemma stop_of_no_operator {n : Nonterminal} (hn : n = .unary ∨ n = .primary) (e : Expr)
    (ts : List Token) : Reading (.behind n e) ts e ts := by
  refine .stop e fun t us _ hl => ?_
  cases t with
  | operator op => cases op <;> rcases hn with rfl | rfl <;> cases hl
  | opening => rcases hn with rfl | rfl <;> cases hl
  | number | name | bang | closing | comma => cases hl

lemma BinaryOp.level_ne (op : BinaryOp) : op.level ≠ .unary ∧ op.level ≠ .primary := by
  cases op <;> decide

/-- The arguments of a call are read one after the other up to the closing parenthesis. -/
lemma reading_within {f e : Expr} {rest rest' : List Token} (args : List (List Token × Expr))
    (hargs : ∀ a ∈ args, ∀ us, Ended us → Reading (.before .disjunction) (a.1 ++ us) a.2 us)
    (done : List Expr)
    (h : Reading (.behind .applied (.call f (done ++ args.map Prod.snd))) rest e rest') :
    Reading (.within f done)
      ((args.flatMap fun a => .comma :: a.1) ++ .closing :: rest) e rest' := by
  induction args generalizing done with
  | nil => exact .finish (by simpa using h)
  | cons a args ih =>
    have hrest : Ended ((args.flatMap fun a => .comma :: a.1) ++ .closing :: rest) := by
      cases args <;> exact ended_cons _ rfl
    simp only [List.flatMap_cons, List.cons_append, List.append_assoc]
    refine .more (hargs a List.mem_cons_self _ hrest) ?_
    exact ih (fun a' ha' => hargs a' (List.mem_cons_of_mem _ ha')) _ (by simpa using h)

lemma separated_cons (ts : List Token) (args : List (List Token)) :
    separated (ts :: args) = ts ++ args.flatMap fun a => .comma :: a := by
  induction args generalizing ts with
  | nil => simp [separated]
  | cons a args ih =>
    have := ih a
    simp_all [separated, List.intercalate]

/-- A derivation is found by reading from left to right, whatever follows it. -/
theorem Derives.reading {n : Nonterminal} {ts : List Token} {e : Expr} (h : Derives n ts e) :
    ∀ {rest rest' : List Token} {e' : Expr}, Bounded n rest → Reading (.behind n e) rest e' rest' →
      Reading (.before n) (ts ++ rest) e' rest' := by
  induction h with
  | number digits =>
    intro rest rest' e' _ hbehind
    obtain ⟨rfl, rfl⟩ := (stop_of_no_operator (.inr rfl) _ rest).deterministic hbehind
    exact .number digits rest
  | name text =>
    intro rest rest' e' _ hbehind
    obtain ⟨rfl, rfl⟩ := (stop_of_no_operator (.inr rfl) _ rest).deterministic hbehind
    exact .name text rest
  | parens _ ih =>
    intro rest rest' e' _ hbehind
    obtain ⟨rfl, rfl⟩ := (stop_of_no_operator (.inr rfl) _ rest).deterministic hbehind
    have hclosing : Ended (.closing :: rest) := ended_cons rest rfl
    simpa using Reading.parens (ih (hclosing.bounded _) (hclosing.stop _ _))
  | call args _ hargs ihf ihargs =>
    intro rest rest' e' _ hbehind
    have hread : ∀ a ∈ args, ∀ us, Ended us → Reading (.before .disjunction) (a.1 ++ us) a.2 us :=
      fun a ha us hus => ihargs a ha (hus.bounded _) (hus.stop _ _)
    rw [List.append_assoc]
    refine ihf (bounded_cons _ (by simp [Token.continues])) ?_
    cases args with
    | nil => exact .empty hbehind
    | cons a args =>
      have htail : Ended ((args.flatMap fun a => .comma :: a.1) ++ .closing :: rest) := by
        cases args <;> exact ended_cons _ rfl
      have hwithin := reading_within args (fun a' ha' => hread a' (List.mem_cons_of_mem _ ha'))
        [a.2] hbehind
      have htokens : separated ((a :: args).map Prod.fst) ++ [Token.closing] ++ rest =
          a.1 ++ ((args.flatMap fun a => .comma :: a.1) ++ .closing :: rest) := by
        rw [List.map_cons, separated_cons]
        simp [List.flatMap_map]
      simp only [List.cons_append]
      rw [htokens]
      refine .argument ?_ (hread a List.mem_cons_self _ htail) hwithin
      intro us hus
      obtain ⟨t, vs, hvs, ht⟩ := (hargs a List.mem_cons_self).starts
      rw [hvs] at hus
      obtain ⟨rfl, -⟩ := List.cons.inj hus
      exact ht
  | unary op _ ih =>
    intro rest rest' e' hrest hbehind
    obtain ⟨rfl, rfl⟩ := (stop_of_no_operator (.inl rfl) _ rest).deterministic hbehind
    exact .unary op rfl (ih hrest (stop_of_no_operator (.inl rfl) _ rest))
  | binary op _ _ iha ihb =>
    intro rest rest' e' hrest hbehind
    have hlt : op.level.rank < op.level.next.rank := by
      rw [Nonterminal.rank_next op.level_ne.2]
      omega
    have hb := ihb (hrest.mono (by omega)) (hrest.stop hlt _)
    rw [List.append_assoc]
    exact iha (bounded_cons _ (by simp [Token.continues])) (.operator op rfl hb hbehind)
  | @alone n ts e h ih =>
    intro rest rest' e' hrest hbehind
    by_cases hprimary : n = .primary
    · subst hprimary
      exact ih hrest hbehind
    have hnext := Nonterminal.rank_next hprimary
    have ha := ih (hrest.mono (by omega)) (hrest.stop (by omega) e)
    by_cases hunary : n = .unary
    · subst hunary
      obtain ⟨rfl, rfl⟩ := (stop_of_no_operator (.inl rfl) e rest).deterministic hbehind
      obtain ⟨t, us, rfl, ht⟩ := h.starts
      refine .plain ?_ ha
      rintro op vs hvs
      obtain ⟨rfl, -⟩ := List.cons.inj hvs
      cases op <;> simp [UnaryOp.token, Token.Starts, Nonterminal.next, Nonterminal.rank] at ht
    · exact .first hunary hprimary ha hbehind

/-- The grammar is unambiguous. -/
theorem Derives.unique {n n' : Nonterminal} {ts : List Token} {e e' : Expr} (h : Derives n ts e)
    (h' : Derives n' ts e') : e = e' := by
  have hread {e : Expr} (h : Derives .disjunction ts e) :=
    h.reading (ended_nil.bounded _) (ended_nil.stop _ e)
  have hloose := h.loosen (k := .disjunction) (by simp [Nonterminal.rank])
  have hloose' := h'.loosen (k := .disjunction) (by simp [Nonterminal.rank])
  exact ((hread hloose).deterministic (hread hloose')).1

end MbedBlocks.Proofs
