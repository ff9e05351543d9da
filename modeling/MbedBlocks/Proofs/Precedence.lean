import MbedBlocks.Board.Nucleo
import MbedBlocks.Emit.Walk
import MbedBlocks.Proofs.KindEntries
import MbedBlocks.Proofs.NumberText

/-!
# Precedence of emitted expressions

What a value block describes is a tree: literals, names and calls at the leaves, and operators over
the trees in its sockets. The text that a socket yields for a slot is read as exactly that tree, at
the level of the grammar that the slot asks for, so parentheses stand wherever the grammar needs
them.
-/

namespace MbedBlocks.Proofs

open Code (Level Fragment)
open MbedBlocks.Graph (ChildEmitter isStatement socketValue)

/-- The level of the grammar that a slot asks for. Operators that no block emits have no level of
their own: their slots are those of the next tighter level. -/
def grammarLevel : Level → Nonterminal
  | .none | .comma | .assignment | .conditional | .logicalOr => .disjunction
  | .logicalAnd => .conjunction
  | .bitwiseOr | .bitwiseXor | .bitwiseAnd | .equality => .equality
  | .relational => .relation
  | .shift | .additive => .sum
  | .multiplicative => .product
  | .unaryPrefix => .unary
  | .unaryPostfix => .applied
  | .member | .atomic => .primary

lemma grammarLevel_mono {slot level : Level} (h : slot ≤ level) :
    (grammarLevel slot).rank ≤ (grammarLevel level).rank := by
  revert h
  cases slot <;> cases level <;> decide

theorem reads_parenthesize {text : String} {level : Level} {e : Expr}
    (h : Reads (grammarLevel level) text e) (slot : Level) :
    Reads (grammarLevel slot) (Code.parenthesize text level slot) e := by
  unfold Code.parenthesize Level.needsParens
  split_ifs with hparens
  · exact (h.loosen (Nat.zero_le _)).parens.loosen (Nonterminal.rank_le _)
  · have hslot : slot ≤ level := Nat.le_of_not_lt fun h => hparens (decide_eq_true h)
    exact h.loosen (grammarLevel_mono hslot)

/-! ### The trees of blocks -/

/-- The tree of a block without sockets. -/
inductive Leaf (b : Block) : Expr → Prop where
  | defaultNumber (hk : b.kind? = some (.language .number)) (hf : b.fields.get? "NUM" = none) :
      Leaf b (.number "0")
  | number {x : Float} (hk : b.kind? = some (.language .number))
      (hf : b.fields.get? "NUM" = some (.number x)) (hx : x.isFinite = true) :
      Leaf b (numberTree (Decimal.program x))
  | boolean (hk : b.kind? = some (.language .boolean)) :
      Leaf b (.name (if b.text "BOOL" = "TRUE" then "true" else "false"))
  | defaultVariable (hk : b.kind? = some (.var .get)) (hf : b.fields.get? "VAR" = none) :
      Leaf b (.name "item")
  | namedVariable {name : String} (hk : b.kind? = some (.var .get))
      (hf : b.fields.get? "VAR" = some (.text name)) (hname : isIdentifier name.toList) :
      Leaf b (.name name)
  | millis (hk : b.kind? = some (.time .millis)) : Leaf b (.call (.name "millis") [])
  | micros (hk : b.kind? = some (.time .micros)) : Leaf b (.call (.name "micros") [])
  | motion {pin : String} (hk : b.kind? = some (.sensor .sr501Readable))
      (hf : b.fields.get? "IO" = some (.text pin)) (hpin : isIdentifier pin.toList) :
      Leaf b (.binary .equal (.name ("sr501_" ++ pin)) (.name "true"))
  | analog {pin : String} (hk : b.kind? = some (.sensor .analogReadable))
      (hf : b.fields.get? "IO" = some (.text pin)) (hpin : isIdentifier pin.toList) :
      Leaf b (.binary .equal (.name ("analog_" ++ pin)) (.name "true"))

def arithmeticOp : String → BinaryOp
  | "MINUS" => .sub
  | "MULTIPLY" => .mul
  | "DIVIDE" => .div
  | "MODULO" => .mod
  | _ => .add

def comparisonOp : String → BinaryOp
  | "NEQ" => .notEqual
  | "LT" => .less
  | "LTE" => .lessEqual
  | "GT" => .greater
  | "GTE" => .greaterEqual
  | _ => .equal

def logicalOp : String → BinaryOp
  | "OR" => .or
  | _ => .and

/-- The block in a value socket. -/
abbrev plugged (g : Graph) (b : Block) (socket : String) : Option Block :=
  (b.values.get? socket).bind g.get?

/-- What a logical operation has in an empty socket: the neutral operand, or `false` if both sockets
are empty. -/
def missingOperand (g : Graph) (b : Block) : String :=
  if plugged g b "A" = none ∧ plugged g b "B" = none then "false"
  else if logicalOp (b.text "OP") = .or then "false"
  else "true"

mutual

/-- The tree of a value block while the blocks in `path` are in progress. A block has one only if no
block stands inside itself. -/
inductive Describes (g : Graph) : List String → Block → Expr → Prop where
  | leaf {path : List String} {b : Block} {e : Expr} (hb : b.id ∉ path) (h : Leaf b e) :
      Describes g path b e
  | power {path : List String} {b : Block} {l r : Expr} (hb : b.id ∉ path)
      (hk : b.kind? = some (.language .arithmetic)) (hop : b.text "OP" = "POWER")
      (hl : Operand g (b.id :: path) b "A" (.number "0") l)
      (hr : Operand g (b.id :: path) b "B" (.number "0") r) :
      Describes g path b (.call (.name "pow") [l, r])
  | arithmetic {path : List String} {b : Block} {l r : Expr} (hb : b.id ∉ path)
      (hk : b.kind? = some (.language .arithmetic)) (hop : b.text "OP" ≠ "POWER")
      (hl : Operand g (b.id :: path) b "A" (.number "0") l)
      (hr : Operand g (b.id :: path) b "B" (.number "0") r) :
      Describes g path b (.binary (arithmeticOp (b.text "OP")) l r)
  | compare {path : List String} {b : Block} {l r : Expr} (hb : b.id ∉ path)
      (hk : b.kind? = some (.language .compare))
      (hl : Operand g (b.id :: path) b "A" (.number "0") l)
      (hr : Operand g (b.id :: path) b "B" (.number "0") r) :
      Describes g path b (.binary (comparisonOp (b.text "OP")) l r)
  | operation {path : List String} {b : Block} {l r : Expr} (hb : b.id ∉ path)
      (hk : b.kind? = some (.language .operation))
      (hl : Operand g (b.id :: path) b "A" (.name (missingOperand g b)) l)
      (hr : Operand g (b.id :: path) b "B" (.name (missingOperand g b)) r) :
      Describes g path b (.binary (logicalOp (b.text "OP")) l r)
  | negate {path : List String} {b : Block} {e : Expr} (hb : b.id ∉ path)
      (hk : b.kind? = some (.language .negate))
      (h : Operand g (b.id :: path) b "BOOL" (.name "true") e) :
      Describes g path b (.unary .not e)

/-- The tree in a value socket, or `fallback` if the socket is empty or leads nowhere. -/
inductive Operand (g : Graph) : List String → Block → String → Expr → Expr → Prop where
  | vacant {path : List String} {b : Block} {socket : String} {fallback : Expr}
      (h : plugged g b socket = none) : Operand g path b socket fallback fallback
  | plugged {path : List String} {b c : Block} {socket : String} {fallback e : Expr}
      (h : plugged g b socket = some c) (hc : Describes g path c e) :
      Operand g path b socket fallback e

end

/-! ### Emission -/

section Emission

variable {g : Graph} {board : Board} {indent : String} {path : List String}

/-- The block is emitted as a value whose text is read as the tree. -/
def Emitted (g : Graph) (board : Board) (indent : String) (path : List String) (b : Block)
    (e : Expr) : Prop :=
  isStatement b = false ∧
    ∃ text level, (g.emitWithin board indent path b).result = some (.value text level) ∧
      Reads (grammarLevel level) text e

/-- What a socket yields while the blocks in `path` are in progress. -/
abbrev socketText (g : Graph) (board : Board) (indent : String) (path : List String) (b : Block)
    (socket : String) (slot : Level) : Option String :=
  (socketValue g (g.emitter board indent path) b socket slot).result

lemma result_of_kind {b : Block} {k : Kind} (hb : b.id ∉ path) (hk : b.kind? = some k) :
    (g.emitWithin board indent path b).result =
      some ((g.site board indent (g.emitter board indent (b.id :: path)) b).emit
        (k.emit g b)).result := by
  rw [Graph.emitWithin_of_kind hb hk]
  rfl

lemma Emitted.of_kind {b : Block} {k : Kind} {e : Expr} (text : String) (level : Level)
    (hb : b.id ∉ path) (hk : b.kind? = some k) (hshape : k.isValue = true)
    (hemit : ((g.site board indent (g.emitter board indent (b.id :: path)) b).emit
      (k.emit g b)).result = .value text level) (h : Reads (grammarLevel level) text e) :
    Emitted g board indent path b e := by
  refine ⟨?_, text, level, ?_, h⟩
  · rw [Block.isStatement_of_kind hk, hshape]
    rfl
  · rw [result_of_kind hb hk, hemit]

/-- A value that is not empty stands in a socket with the parentheses that the slot asks for. -/
lemma socketText_of_result {b c : Block} {socket text : String} {level : Level}
    (h : plugged g b socket = some c) (hvalue : isStatement c = false)
    (hresult : (g.emitWithin board indent path c).result = some (.value text level))
    (hne : text ≠ "") (slot : Level) :
    socketText g board indent path b socket slot = some (Code.parenthesize text level slot) := by
  rw [socketText, Graph.socketValue_of_plugged h, hvalue, if_neg (by decide), Emit.result_bind,
    Graph.emitter, hresult, Graph.fragmentValue, if_neg hne]
  rfl

lemma Emitted.socketText {b c : Block} {socket : String} {e : Expr}
    (h : plugged g b socket = some c) (hc : Emitted g board indent path c e) (slot : Level) :
    ∃ text, socketText g board indent path b socket slot = some text ∧
      Reads (grammarLevel slot) text e := by
  obtain ⟨hvalue, text, level, hresult, hreads⟩ := hc
  exact ⟨Code.parenthesize text level slot,
    socketText_of_result h hvalue hresult hreads.ne_empty slot, reads_parenthesize hreads slot⟩

lemma text_of_get? {b : Block} {name : String} {v : FieldValue} (h : b.fields.get? name = some v) :
    b.text name = v.render := by
  rw [Block.text, h]
  rfl

lemma textOr_of_get? {b : Block} {name fallback : String} {v : FieldValue}
    (h : b.fields.get? name = some v) (hv : v.render ≠ "") : b.textOr name fallback = v.render := by
  rw [Block.textOr, text_of_get? h, if_neg hv]

lemma textOr_of_absent {b : Block} {name fallback : String} (h : b.fields.get? name = none) :
    b.textOr name fallback = fallback := by
  rw [Block.textOr, Block.text, h]
  rfl

lemma isIdentifier_append {cs ds : List Char} (hcs : isIdentifier cs) (hds : isIdentifier ds) :
    isIdentifier (cs ++ ds) := by
  cases cs with
  | nil => exact hds
  | cons c cs =>
    cases ds with
    | nil => simpa using hcs
    | cons d ds =>
      simp only [isIdentifier, List.cons_append, List.all_append, List.all_cons,
        Bool.and_eq_true] at hcs hds ⊢
      have hd : isNameChar d := by
        simp only [isNameStart, isNameChar, Char.isAlphanum, Bool.or_eq_true] at hds ⊢
        exact hds.1.imp_left .inl
      exact ⟨hcs.1, hcs.2, hd, hds.2⟩

lemma Emitted.readable {b : Block} {k : SensorKind} {stem pin : String} (hb : b.id ∉ path)
    (hk : b.kind? = some (.sensor k)) (hshape : (Kind.sensor k).isValue = true)
    (hemit : k.emit b = SensorKind.emitReadable b stem)
    (hf : b.fields.get? "IO" = some (.text pin)) (hstem : isIdentifier (stem ++ "_").toList)
    (hpin : isIdentifier pin.toList) :
    Emitted g board indent path b (.binary .equal (.name (stem ++ "_" ++ pin)) (.name "true")) := by
  have hname : isIdentifier (stem ++ "_" ++ pin).toList := by
    rw [String.toList_append]
    exact isIdentifier_append hstem hpin
  have htrue : isIdentifier "true".toList := by decide
  have hreads := reads_equal_names hname htrue
  refine .of_kind (stem ++ "_" ++ pin ++ "==true") .equality hb hk hshape ?_ ?_
  · rw [Kind.emit, hemit, SensorKind.emitReadable, text_of_get? hf]
    rfl
  · rw [String.append_assoc] at hreads
    exact hreads

theorem Leaf.emitted {b : Block} {e : Expr} (h : Leaf b e) (hb : b.id ∉ path) :
    Emitted g board indent path b e := by
  cases h with
  | defaultNumber hk hf =>
    refine .of_kind "0" .atomic hb hk rfl ?_ (reads_number (by decide))
    rw [Kind.emit, LanguageKind.emit, LanguageKind.emitNumber, textOr_of_absent hf]
    rfl
  | @number x hk hf hx =>
    have hreads := reads_program hx
    refine .of_kind (Decimal.program x)
      (if (Decimal.program x).toList.head? = some '-' then .unaryPrefix else .atomic) hb hk rfl ?_ ?_
    · rw [Kind.emit, LanguageKind.emit, LanguageKind.emitNumber,
        textOr_of_get? hf hreads.ne_empty]
      rfl
    · unfold numberLevel at hreads
      split_ifs at hreads ⊢ <;> exact hreads
  | boolean hk =>
    refine .of_kind _ .atomic hb hk rfl rfl (reads_name ?_)
    split_ifs <;> decide
  | defaultVariable hk hf =>
    refine .of_kind "item" .atomic hb hk rfl ?_ (reads_name (by decide))
    rw [Kind.emit, VariableKind.emit, textOr_of_absent hf]
    rfl
  | @namedVariable name hk hf hname =>
    have hreads := reads_name hname
    refine .of_kind name .atomic hb hk rfl ?_ hreads
    rw [Kind.emit, VariableKind.emit, textOr_of_get? hf hreads.ne_empty]
    rfl
  | millis hk =>
    have hname : isIdentifier "millis".toList := by decide
    exact .of_kind "millis()" .unaryPostfix hb hk rfl rfl (reads_call_nil hname)
  | micros hk =>
    have hname : isIdentifier "micros".toList := by decide
    exact .of_kind "micros()" .unaryPostfix hb hk rfl rfl (reads_call_nil hname)
  | motion hk hf hpin =>
    exact Emitted.readable hb hk rfl rfl hf (by decide) hpin
  | analog hk hf hpin =>
    exact Emitted.readable hb hk rfl rfl hf (by decide) hpin

/-- An operator of the emission spells and groups as an operator of the grammar. -/
structure Spells (o : Operator) (op : BinaryOp) : Prop where
  symbol : o.symbol = op.symbol
  left : grammarLevel o.level = op.level
  right : grammarLevel o.level.tighter = op.level.next

lemma spells_arithmetic (selector : String) :
    Spells (.arithmetic selector) (arithmeticOp selector) := by
  fun_cases arithmeticOp selector <;> simp only [Operator.arithmetic] <;> exact ⟨rfl, rfl, rfl⟩

lemma spells_comparison (selector : String) :
    Spells (.comparison selector) (comparisonOp selector) := by
  fun_cases comparisonOp selector <;> simp only [Operator.comparison] <;> exact ⟨rfl, rfl, rfl⟩

lemma spells_logical (selector : String) : Spells (.logical selector) (logicalOp selector) := by
  fun_cases logicalOp selector <;> simp only [Operator.logical] <;> exact ⟨rfl, rfl, rfl⟩

lemma Spells.reads {o : Operator} {op : BinaryOp} (h : Spells o op) {s t : String} {l r : Expr}
    (hl : Reads (grammarLevel o.level) s l) (hr : Reads (grammarLevel o.level.tighter) t r) :
    Reads (grammarLevel o.level) (s ++ " " ++ o.symbol ++ " " ++ t) (.binary op l r) := by
  rw [h.left] at hl ⊢
  rw [h.right] at hr
  rw [h.symbol]
  exact hl.binary op hr

/-- A socket yields a text for its tree in every slot, or nothing if nothing is plugged in. -/
def Yields (g : Graph) (board : Board) (indent : String) (path : List String) (b : Block)
    (socket : String) (fallback e : Expr) (slot : Level) : Prop :=
  (plugged g b socket = none ∧ socketText g board indent path b socket slot = none ∧
    e = fallback) ∨
  (plugged g b socket ≠ none ∧ ∃ text, socketText g board indent path b socket slot = some text ∧
    Reads (grammarLevel slot) text e)

lemma Yields.reads {b : Block} {socket text : String} {fallback e : Expr} {slot : Level}
    (h : Yields g board indent path b socket fallback e slot) (ht : Reads .primary text fallback) :
    Reads (grammarLevel slot) ((socketText g board indent path b socket slot).getD text) e := by
  rcases h with ⟨-, hnone, rfl⟩ | ⟨-, s, hsome, hreads⟩
  · rw [hnone]
    exact ht.loosen (Nonterminal.rank_le _)
  · rw [hsome]
    exact hreads

lemma Yields.eq_none_iff {b : Block} {socket : String} {fallback e : Expr} {slot : Level}
    (h : Yields g board indent path b socket fallback e slot) :
    socketText g board indent path b socket slot = none ↔ plugged g b socket = none := by
  rcases h with ⟨hvacant, hnone, -⟩ | ⟨hplugged, s, hsome, -⟩
  · simp [hvacant, hnone]
  · simp [hplugged, hsome]

lemma reads_zero : Reads .primary "0" (.number "0") := reads_number (by decide)

/-- Both operands of an operator, with `0` in an empty socket. -/
lemma emitBinary_reads {o : Operator} {op : BinaryOp} {b : Block} {l r : Expr} (h : Spells o op)
    (hl : Yields g board indent path b "A" (.number "0") l o.level)
    (hr : Yields g board indent path b "B" (.number "0") r o.level.tighter) :
    ∃ text, ((g.site board indent (g.emitter board indent path) b).emit
        (LanguageKind.emitBinary o)).result = .value text o.level ∧
      Reads (grammarLevel o.level) text (.binary op l r) := by
  refine ⟨_, ?_, h.reads (hl.reads reads_zero) (hr.reads reads_zero)⟩
  simp only [LanguageKind.emitBinary, Site.emit_bind, Site.emit_valueOr, Emit.result_bind]
  rfl

lemma emitPower_reads {b : Block} {l r : Expr} (hop : b.text "OP" = "POWER")
    (hl : Yields g board indent path b "A" (.number "0") l .argument)
    (hr : Yields g board indent path b "B" (.number "0") r .argument) :
    ∃ text, ((g.site board indent (g.emitter board indent path) b).emit
        (LanguageKind.emitArithmetic b)).result = .value text .unaryPostfix ∧
      Reads .applied text (.call (.name "pow") [l, r]) := by
  have hpow : isIdentifier "pow".toList := by decide
  refine ⟨_, ?_, reads_call_pair hpow (hl.reads reads_zero) (hr.reads reads_zero)⟩
  simp only [LanguageKind.emitArithmetic, hop, if_true, Script.argumentOr, Site.emit_bind,
    Site.emit_valueOr, Emit.result_bind]
  rfl

/-- What an operation takes for an operand that its socket does not yield. -/
def neutralOperand (o : Operator) (left right : Option String) : String :=
  if left = none ∧ right = none then "false"
  else if o.symbol = "&&" then "true" else "false"

lemma emitOperation_result (s : Site Emit) (b : Block) :
    (s.emit (LanguageKind.emitOperation b)).result =
      let o := Operator.logical (b.text "OP")
      let left := (s.value "A" o.level).result
      let right := (s.value "B" o.level.tighter).result
      let neutral := neutralOperand o left right
      .value (left.getD neutral ++ " " ++ o.symbol ++ " " ++ right.getD neutral) o.level := by
  simp only [LanguageKind.emitOperation, Site.emit_bind, Site.emit_value, Emit.result_bind]
  generalize (s.value "A" _).result = left
  generalize (s.value "B" _).result = right
  unfold neutralOperand
  cases left <;> cases right <;> simp <;> rfl

lemma neutralOperand_eq {b : Block} {left right : Option String}
    (hl : left = none ↔ plugged g b "A" = none) (hr : right = none ↔ plugged g b "B" = none) :
    neutralOperand (.logical (b.text "OP")) left right = missingOperand g b := by
  have hor : logicalOp (b.text "OP") = .or ↔ (Operator.logical (b.text "OP")).symbol ≠ "&&" := by
    rw [(spells_logical _).symbol]
    fun_cases logicalOp (b.text "OP") <;> decide
  unfold neutralOperand missingOperand
  simp only [hl, hr, hor, ne_eq, ite_not]

lemma emitOperation_reads {b : Block} {l r : Expr}
    (hl : Yields g board indent path b "A" (.name (missingOperand g b)) l
      (Operator.logical (b.text "OP")).level)
    (hr : Yields g board indent path b "B" (.name (missingOperand g b)) r
      (Operator.logical (b.text "OP")).level.tighter) :
    ∃ text, ((g.site board indent (g.emitter board indent path) b).emit
        (LanguageKind.emitOperation b)).result =
          .value text (Operator.logical (b.text "OP")).level ∧
      Reads (grammarLevel (Operator.logical (b.text "OP")).level) text
        (.binary (logicalOp (b.text "OP")) l r) := by
  have hmissing : Reads .primary (missingOperand g b) (.name (missingOperand g b)) := by
    apply reads_name
    unfold missingOperand
    split_ifs <;> decide
  refine ⟨_, ?_, (spells_logical _).reads (hl.reads hmissing) (hr.reads hmissing)⟩
  rw [← neutralOperand_eq hl.eq_none_iff hr.eq_none_iff]
  exact emitOperation_result _ b

lemma emitNegate_reads {b : Block} {e : Expr}
    (h : Yields g board indent path b "BOOL" (.name "true") e .unaryPrefix) :
    ∃ text, ((g.site board indent (g.emitter board indent path) b).emit
        LanguageKind.emitNegate).result = .value text .unaryPrefix ∧
      Reads .unary text (.unary .not e) := by
  have htrue : Reads .primary "true" (.name "true") := reads_name (by decide)
  refine ⟨_, ?_, (h.reads htrue).not⟩
  simp only [LanguageKind.emitNegate, Site.emit_bind, Site.emit_valueOr, Emit.result_bind]
  rfl

mutual

theorem Describes.emitted : ∀ {path : List String} {b : Block} {e : Expr}, Describes g path b e →
    Emitted g board indent path b e
  | _, _, _, .leaf hb h => h.emitted hb
  | _, _, _, .power hb hk hop hl hr => by
    obtain ⟨text, htext, hreads⟩ := emitPower_reads hop (hl.yields _) (hr.yields _)
    exact .of_kind text .unaryPostfix hb hk rfl htext hreads
  | _, _, _, .arithmetic hb hk hop hl hr => by
    obtain ⟨text, htext, hreads⟩ :=
      emitBinary_reads (spells_arithmetic _) (hl.yields _) (hr.yields _)
    refine .of_kind text _ hb hk rfl ?_ hreads
    rw [Kind.emit, LanguageKind.emit, LanguageKind.emitArithmetic, if_neg hop]
    exact htext
  | _, _, _, .compare hb hk hl hr => by
    obtain ⟨text, htext, hreads⟩ :=
      emitBinary_reads (spells_comparison _) (hl.yields _) (hr.yields _)
    exact .of_kind text _ hb hk rfl htext hreads
  | _, _, _, .operation hb hk hl hr => by
    obtain ⟨text, htext, hreads⟩ := emitOperation_reads (hl.yields _) (hr.yields _)
    exact .of_kind text _ hb hk rfl htext hreads
  | _, _, _, .negate hb hk h => by
    obtain ⟨text, htext, hreads⟩ := emitNegate_reads (h.yields _)
    exact .of_kind text .unaryPrefix hb hk rfl htext hreads

theorem Operand.yields : ∀ {path : List String} {b : Block} {socket : String} {fallback e : Expr},
    Operand g path b socket fallback e → ∀ slot, Yields g board indent path b socket fallback e slot
  | _, _, _, _, _, .vacant h, slot => by
    refine .inl ⟨h, ?_, rfl⟩
    rw [socketText, Graph.socketValue_of_vacant h]
    rfl
  | _, _, _, _, _, .plugged h hc, slot => .inr ⟨by simp [h], hc.emitted.socketText h slot⟩

end

lemma Operand.reads {b : Block} {socket text : String} {fallback e : Expr}
    (h : Operand g path b socket fallback e) (ht : Reads .primary text fallback) (board : Board)
    (indent : String) (slot : Level) :
    Reads (grammarLevel slot) ((socketText g board indent path b socket slot).getD text) e :=
  (h.yields slot).reads ht

/-! ### Operands inside statements -/

lemma result_of_statement {b : Block} {k : Kind} {text : String} (hb : b.id ∉ path)
    (hk : b.kind? = some k)
    (hemit : ((g.site board indent (g.emitter board indent (b.id :: path)) b).emit
      (k.emit g b)).result = .statement text) :
    (g.emitWithin board indent path b).result = some (.statement text) := by
  rw [result_of_kind hb hk, hemit]

/-- An operator spelled together with the blanks around it. -/
lemma Reads.spliced (op : BinaryOp) {s t : String} {l r : Expr} (hl : Reads op.level s l)
    (hr : Reads op.level.next t r) :
    Reads op.level (s ++ (" " ++ op.symbol ++ " ") ++ t) (.binary op l r) := by
  have hbinary := hl.binary op hr
  simp only [String.append_assoc] at hbinary ⊢
  exact hbinary

lemma reads_divideLiteral {s : String} {e : Expr} (h : Reads .product s e)
    (he : e.isLiteral = false) :
    Reads .product (Code.divideLiteral s 1000) (.binary .div e (.number "1000.0")) := by
  have hdivisor : Decimal.onePlace 1000 = "1000.0" := by decide
  have hright : Reads .unary "1000.0" (.number "1000.0") :=
    (reads_number (by decide)).loosen (by decide)
  rw [Code.divideLiteral, numericLiteral?_eq_none h he, hdivisor]
  exact h.spliced .div hright

lemma reads_multiplyLiteral {s : String} {e : Expr} (h : Reads .product s e)
    (he : e.isLiteral = false) :
    Reads .product (Code.multiplyLiteral s 100000) (.binary .mul e (.number "100000")) := by
  have hfactor : Decimal.program 100000 = "100000" := by decide +kernel
  have hright : Reads .unary "100000" (.number "100000") :=
    (reads_number (by decide)).loosen (by decide)
  rw [Code.multiplyLiteral, numericLiteral?_eq_none h he, hfactor]
  exact h.spliced .mul hright

lemma reads_reciprocal {s : String} {e : Expr} (h : Reads .unary s e) :
    Reads .product ("1.0 / " ++ s) (.binary .div (.number "1.0") e) := by
  have hleft : Reads .product "1.0" (.number "1.0") := (reads_number (by decide)).loosen (by decide)
  exact hleft.spliced .div h

/-- The text is read as the tree at the level, and as no other tree at any level. -/
def ReadsOnly (n : Nonterminal) (s : String) (e : Expr) : Prop :=
  Reads n s e ∧ ∀ n' e', Reads n' s e' → e' = e

lemma Reads.only {n : Nonterminal} {s : String} {e : Expr} (h : Reads n s e) : ReadsOnly n s e :=
  ⟨h, fun _ _ h' => h'.unique h⟩

section Statements

variable (s : Site Emit) (b : Block)

lemma emitDelay_result :
    (s.emit TimeKind.emitDelay).result =
      .statement ("wait(" ++
        Code.divideLiteral ((s.value "DELAY_TIME_MILI" .multiplicative).result.getD "0") 1000 ++
        ");\n") := by
  simp [TimeKind.emitDelay]

lemma emitSetup_result : ∃ rest,
    (s.emit (SpiKind.emitSetup b)).result =
      .statement ("spi_" ++ b.text "SPI_ID" ++ ".frequency(" ++
        Code.multiplyLiteral ((s.value "frequency" .multiplicative).result.getD "1") 100000 ++
        ");\n" ++ rest) := by
  refine ⟨"spi_" ++ b.text "SPI_ID" ++ ".format(8," ++ b.textOr "SPI_MODE" "0" ++ ");\n" ++
    ("myDigitalOut" ++ b.text "PIN" ++ ".write(0);\n"), ?_⟩
  simp only [SpiKind.emitSetup, digitalOut, Site.emit_bind, Site.emit_valueOr, Emit.result_bind,
    Emit.result_pure]
  split <;> simp [String.append_assoc]

lemma emitTone_result : ∃ rest,
    (s.emit (PinKind.emitTone b)).result =
      .statement ("myPwm" ++ b.text "TONEPIN" ++ ".period(" ++
        ("1.0 / " ++ (s.value "FREQUENCY" Level.multiplicative.tighter).result.getD "440") ++
        ");\n" ++ rest) := by
  refine ⟨"myPwm" ++ b.text "TONEPIN" ++ ".write(0.5f);\n", ?_⟩
  simp [PinKind.emitTone, PinKind.pwmOut, ← String.toList_inj]

lemma emitRepetition_result (hmode : b.text "MODE" = "UNTIL") : ∃ rest,
    (s.emit (LanguageKind.emitRepetition b)).result =
      .statement ("while (" ++ ("!" ++ (s.value "BOOL" .unaryPrefix).result.getD "false") ++
        ") " ++ rest) := by
  refine ⟨Code.braces (s.emit (.body "DO")).result ++ "\n", ?_⟩
  simp [LanguageKind.emitRepetition, hmode, String.append_assoc]

end Statements

/-! ### Whole operands -/

lemma delay_reads {b : Block} {e : Expr} (hb : b.id ∉ path) (hk : b.kind? = some (.time .delay))
    (h : Operand g (b.id :: path) b "DELAY_TIME_MILI" (.number "0") e)
    (he : e.isLiteral = false) :
    ∃ arg, (g.emitWithin board indent path b).result =
        some (.statement ("wait(" ++ arg ++ ");\n")) ∧
      ReadsOnly .product arg (.binary .div e (.number "1000.0")) := by
  have hreads := h.reads reads_zero board indent .multiplicative
  exact ⟨_, result_of_statement hb hk (emitDelay_result _), (reads_divideLiteral hreads he).only⟩

lemma spi_reads {b : Block} {e : Expr} (hb : b.id ∉ path) (hk : b.kind? = some (.spi .setup))
    (h : Operand g (b.id :: path) b "frequency" (.number "1") e) (he : e.isLiteral = false) :
    ∃ arg rest, (g.emitWithin board indent path b).result =
        some (.statement ("spi_" ++ b.text "SPI_ID" ++ ".frequency(" ++ arg ++ ");\n" ++ rest)) ∧
      ReadsOnly .product arg (.binary .mul e (.number "100000")) := by
  have hone : Reads .primary "1" (.number "1") := reads_number (by decide)
  have hreads := h.reads hone board indent .multiplicative
  obtain ⟨rest, hemit⟩ :=
    emitSetup_result (g.site board indent (g.emitter board indent (b.id :: path)) b) b
  exact ⟨_, rest, result_of_statement hb hk hemit, (reads_multiplyLiteral hreads he).only⟩

lemma tone_reads {b : Block} {e : Expr} (hb : b.id ∉ path) (hk : b.kind? = some (.pin .tone))
    (h : Operand g (b.id :: path) b "FREQUENCY" (.number "440") e) :
    ∃ arg rest, (g.emitWithin board indent path b).result =
        some (.statement ("myPwm" ++ b.text "TONEPIN" ++ ".period(" ++ arg ++ ");\n" ++ rest)) ∧
      ReadsOnly .product arg (.binary .div (.number "1.0") e) := by
  have hpitch : Reads .primary "440" (.number "440") := reads_number (by decide)
  have hreads := h.reads hpitch board indent Level.multiplicative.tighter
  obtain ⟨rest, hemit⟩ :=
    emitTone_result (g.site board indent (g.emitter board indent (b.id :: path)) b) b
  exact ⟨_, rest, result_of_statement hb hk hemit, (reads_reciprocal hreads).only⟩

lemma until_reads {b : Block} {e : Expr} (hb : b.id ∉ path)
    (hk : b.kind? = some (.language .repetition)) (hmode : b.text "MODE" = "UNTIL")
    (h : Operand g (b.id :: path) b "BOOL" (.name "false") e) :
    ∃ arg rest, (g.emitWithin board indent path b).result =
        some (.statement ("while (" ++ arg ++ ") " ++ rest)) ∧
      ReadsOnly .unary arg (.unary .not e) := by
  have hfalse : Reads .primary "false" (.name "false") := reads_name (by decide)
  have hreads := h.reads hfalse board indent .unaryPrefix
  obtain ⟨rest, hemit⟩ :=
    emitRepetition_result (g.site board indent (g.emitter board indent (b.id :: path)) b) b hmode
  exact ⟨_, rest, result_of_statement hb hk hemit, hreads.not.only⟩

end Emission

/-- What a socket yields for a slot is read as the tree that the block in it describes and as no
other, at the level of the slot. So an operator that a statement puts around an operand takes the
whole of it. -/
theorem socket_reads_as_described (g : Graph) (board : Board) (indent : String)
    (path : List String) (b : Block) (e : Expr) :
    (∀ socket slot c, plugged g b socket = some c → Describes g path c e →
      ∃ text, socketText g board indent path b socket slot = some text ∧
        ReadsOnly (grammarLevel slot) text e) ∧
    (b.id ∉ path →
      (b.kind? = some (.time .delay) →
        Operand g (b.id :: path) b "DELAY_TIME_MILI" (.number "0") e → e.isLiteral = false →
        ∃ arg, (g.emitWithin board indent path b).result =
            some (.statement ("wait(" ++ arg ++ ");\n")) ∧
          ReadsOnly .product arg (.binary .div e (.number "1000.0"))) ∧
      (b.kind? = some (.spi .setup) →
        Operand g (b.id :: path) b "frequency" (.number "1") e → e.isLiteral = false →
        ∃ arg rest, (g.emitWithin board indent path b).result =
            some (.statement
              ("spi_" ++ b.text "SPI_ID" ++ ".frequency(" ++ arg ++ ");\n" ++ rest)) ∧
          ReadsOnly .product arg (.binary .mul e (.number "100000"))) ∧
      (b.kind? = some (.pin .tone) →
        Operand g (b.id :: path) b "FREQUENCY" (.number "440") e →
        ∃ arg rest, (g.emitWithin board indent path b).result =
            some (.statement
              ("myPwm" ++ b.text "TONEPIN" ++ ".period(" ++ arg ++ ");\n" ++ rest)) ∧
          ReadsOnly .product arg (.binary .div (.number "1.0") e)) ∧
      (b.kind? = some (.language .repetition) → b.text "MODE" = "UNTIL" →
        Operand g (b.id :: path) b "BOOL" (.name "false") e →
        ∃ arg rest, (g.emitWithin board indent path b).result =
            some (.statement ("while (" ++ arg ++ ") " ++ rest)) ∧
          ReadsOnly .unary arg (.unary .not e))) := by
  refine ⟨?_, fun hb => ⟨delay_reads hb, spi_reads hb, tone_reads hb, until_reads hb⟩⟩
  intro socket slot c hc h
  obtain ⟨text, htext, hreads⟩ := (h.emitted).socketText hc slot
  exact ⟨text, htext, hreads.only⟩

/-! ### An example: `0 - (x - -3)` -/

def negativeThree : Block :=
  { id := "three", kind := "math_number", fields := Dict.insert {} "NUM" (.number (-3)) }

def variableX : Block :=
  { id := "x", kind := "variables_get", fields := Dict.insert {} "VAR" (.text "x") }

def innerDifference : Block :=
  { id := "inner"
    kind := "math_arithmetic"
    fields := Dict.insert {} "OP" (.text "MINUS")
    values := Dict.insert (Dict.insert {} "A" "x") "B" "three" }

/-- The left socket is empty. -/
def outerDifference : Block :=
  { id := "outer"
    kind := "math_arithmetic"
    fields := Dict.insert {} "OP" (.text "MINUS")
    values := Dict.insert {} "B" "inner" }

def differences : Graph :=
  { blocks := [negativeThree, variableX, innerDifference, outerDifference] }

def differencesTree : Expr :=
  .binary .sub (.number "0") (.binary .sub (.name "x") (.unary .neg (.number "3")))

/-- A block with the differences in one of its sockets. -/
def holder (kind socket : String) : Block :=
  { id := "holder"
    kind
    fields := Dict.insert {} "MODE" (.text "UNTIL")
    values := Dict.insert {} socket "outer" }

lemma describes_differences : Describes differences ["holder"] outerDifference differencesTree := by
  have hthree : Describes differences ["inner", "outer", "holder"] negativeThree
      (.unary .neg (.number "3")) := by
    have htext : numberTree (Decimal.program (-3)) = .unary .neg (.number "3") := by
      rw [show Decimal.program (-3) = "-3" by decide +kernel]
      rfl
    exact htext ▸ .leaf (by decide) (.number rfl rfl (by decide))
  have hx : Describes differences ["inner", "outer", "holder"] variableX (.name "x") :=
    .leaf (by decide) (.namedVariable rfl rfl (by decide))
  have hinner : Describes differences ["outer", "holder"] innerDifference
      (.binary .sub (.name "x") (.unary .neg (.number "3"))) :=
    .arithmetic (by decide) rfl (by decide) (.plugged rfl hx) (.plugged rfl hthree)
  exact .arithmetic (by decide) rfl (by decide) (.vacant rfl) (.plugged rfl hinner)

/-- The differences inside a delay, a frequency, a tone and a loop. -/
theorem socket_reads_as_described_differences :
    Describes differences ["holder"] outerDifference differencesTree ∧
    (∃ text, socketText differences Board.Nucleo.profile "  " ["holder"]
        (holder "logic_negate" "BOOL") "BOOL" .unaryPrefix = some text ∧
      ReadsOnly .unary text differencesTree) ∧
    (∃ arg, (differences.emitWithin Board.Nucleo.profile "  " []
        (holder "time_delay" "DELAY_TIME_MILI")).result =
        some (.statement ("wait(" ++ arg ++ ");\n")) ∧
      ReadsOnly .product arg (.binary .div differencesTree (.number "1000.0"))) ∧
    (∃ arg rest, (differences.emitWithin Board.Nucleo.profile "  " []
        (holder "spi_setup" "frequency")).result =
        some (.statement ("spi_" ++ "" ++ ".frequency(" ++ arg ++ ");\n" ++ rest)) ∧
      ReadsOnly .product arg (.binary .mul differencesTree (.number "100000"))) ∧
    (∃ arg rest, (differences.emitWithin Board.Nucleo.profile "  " []
        (holder "io_tone" "FREQUENCY")).result =
        some (.statement ("myPwm" ++ "" ++ ".period(" ++ arg ++ ");\n" ++ rest)) ∧
      ReadsOnly .product arg (.binary .div (.number "1.0") differencesTree)) ∧
    (∃ arg rest, (differences.emitWithin Board.Nucleo.profile "  " []
        (holder "controls_whileUntil" "BOOL")).result =
        some (.statement ("while (" ++ arg ++ ") " ++ rest)) ∧
      ReadsOnly .unary arg (.unary .not differencesTree)) := by
  have hdescribes := describes_differences
  have hreads (path : List String) (kind socket : String) :=
    socket_reads_as_described differences Board.Nucleo.profile "  " path (holder kind socket)
      differencesTree
  refine ⟨hdescribes, ?_, ?_, ?_, ?_, ?_⟩
  · exact (hreads ["holder"] _ _).1 "BOOL" .unaryPrefix outerDifference rfl hdescribes
  · exact ((hreads [] _ _).2 (by decide)).1 rfl (.plugged rfl hdescribes) rfl
  · exact ((hreads [] _ _).2 (by decide)).2.1 rfl (.plugged rfl hdescribes) rfl
  · exact ((hreads [] _ _).2 (by decide)).2.2.1 rfl (.plugged rfl hdescribes)
  · exact ((hreads [] _ _).2 (by decide)).2.2.2 rfl rfl (.plugged rfl hdescribes)

end MbedBlocks.Proofs
