import MbedBlocks.Proofs.LastRegistrations

/-!
# The names of functions

Which functions the blocks of each kind define. All scripts define functions only when they are done
with their sockets, so a function that several blocks define is that of the last one.
-/

namespace MbedBlocks.Proofs

open Code (Fragment)
open Registration (Slot)

/-- The function that an effect defines, if only on condition. -/
def functionName? : Effect → Option String
  | .register (.function key _) => some key
  | .unlessDefined function _ => some function
  | _ => none

/-- The slave that a transfer selects, `none` if it has no select line. -/
def slave (b : Block) : String := b.textOr "SPI_SS" "none"

/-- The functions that a block of a kind defines. -/
def defined (b : Block) : Kind → List String
  | .pin .interrupt => ["intr" ++ b.text "Pin" ++ "_interrupt_fun"]
  | .serial .attach => [b.text "SERIAL_Pins" ++ "_interrupt_fun"]
  | .time .ticker => ["tick" ++ Code.identifierSuffix b.id ++ "_handle"]
  | .spi .transferReturn => if slave b = "none" then [] else ["spiReturnSlave" ++ slave b]
  | .network .setup | .network .command => [NetworkKind.handler]
  | .gcode .home => ["Move_Home"]
  | .gcode .move => ["Move_AbsoluteMove"]
  | .gcode .setPosition => ["Move_SetCurrentPos"]
  | _ => []

/-- Which blocks define a function of which name. -/
inductive Defining (b : Block) : Kind → String → Prop where
  | interrupt : Defining b (.pin .interrupt) ("intr" ++ b.text "Pin" ++ "_interrupt_fun")
  | attach : Defining b (.serial .attach) (b.text "SERIAL_Pins" ++ "_interrupt_fun")
  | ticker : Defining b (.time .ticker) ("tick" ++ Code.identifierSuffix b.id ++ "_handle")
  | transfer (h : slave b ≠ "none") :
    Defining b (.spi .transferReturn) ("spiReturnSlave" ++ slave b)
  | setup : Defining b (.network .setup) NetworkKind.handler
  | command : Defining b (.network .command) NetworkKind.handler
  | home : Defining b (.gcode .home) "Move_Home"
  | move : Defining b (.gcode .move) "Move_AbsoluteMove"
  | setPosition : Defining b (.gcode .setPosition) "Move_SetCurrentPos"

lemma defining_of_mem {b : Block} {k : Kind} {name : String} (h : name ∈ defined b k) :
    Defining b k name := by
  unfold defined at h
  split at h
  case h_4 =>
    split_ifs at h with hnone
    · cases h
    · rw [List.mem_singleton.mp h]
      exact .transfer hnone
  case h_10 => cases h
  all_goals
    rw [List.mem_singleton.mp h]
    constructor

/-! ### One kind after the other -/

section Kinds

variable {board : Board}

/-- The script defines these functions, whatever it is answered. -/
def Defines (board : Board) (names : List String) {α : Type} (x : Script α) : Prop :=
  Ensures board x fun own _ => own.filterMap functionName? = names

lemma emit_defines_spi (b : Block) (k : SpiKind) :
    Defines board (defined b (.spi k)) (k.emit b) := by
  unfold Defines
  cases k with
  | setup =>
    simp only [SpiKind.emit, SpiKind.emitSetup, reserveBus, digitalOut, ensures_bind, ensures_pure,
      ensures_ite, ensures_valueOr, ensures_bus, ensures_reserve, ensures_declare,
      ensures_statement, List.nil_append, List.append_nil, Classical.imp_and_neg_imp_iff]
    exact fun _ => rfl
  | transfer => exact fun _ _ => rfl
  | transferReturn =>
    simp only [SpiKind.emit, SpiKind.emitTransferReturn, digitalOut, ensures_bind, ensures_pure,
      ensures_ite, ensures_argumentOr, ensures_reserve, ensures_declare, ensures_addFunction,
      ensures_call, List.nil_append, List.cons_append, List.append_nil]
    exact fun _ => ⟨fun hnone => (if_pos hnone).symm, fun hslave => (if_neg hslave).symm⟩

lemma defines_includeFor (type : ValueType) : Defines board [] (VariableKind.includeFor type) := by
  unfold Defines VariableKind.includeFor
  rw [ensures_ite, ensures_addInclude, ensures_pure]
  exact ⟨fun _ => rfl, fun _ => rfl⟩

/-- A declaration after the header of its type. -/
lemma defines_declaration {own : List Effect} (hown : own.filterMap functionName? = [])
    (key text : String) :
    (own ++ [Effect.register (.declaration key text)]).filterMap functionName? = [] := by
  rw [List.filterMap_append, hown]
  rfl

lemma emit_defines_variable (g : Graph) (b : Block) (k : VariableKind) :
    Defines board (defined b (.var k)) (k.emit g b) := by
  unfold Defines
  cases k with
  | declare =>
    simp only [VariableKind.emit, VariableKind.emitDeclare, ensures_bind, ensures_value,
      ensures_declare, ensures_statement, List.nil_append, List.append_nil]
    exact (defines_includeFor _).mono fun own _ hown _ => defines_declaration hown _ _
  | declareArray =>
    simp only [VariableKind.emit, VariableKind.emitDeclareArray, ensures_bind, ensures_declare,
      ensures_statement, List.append_nil]
    exact (defines_includeFor _).mono fun own _ hown => defines_declaration hown _ _
  | cast =>
    simp only [VariableKind.emit, VariableKind.emitCast, ensures_bind, ensures_ite,
      ensures_expression, ensures_pure, List.append_nil]
    refine (ensures_castSource g b).mono fun own source hown => ?_
    subst hown
    exact ⟨fun _ => rfl, fun _ => rfl⟩
  | get => exact rfl
  | set => exact fun _ _ => rfl

lemma emitBranch_defines (b : Block) : Defines board [] (LanguageKind.emitBranch b) := by
  unfold Defines LanguageKind.emitBranch
  rw [ensures_bind]
  refine (ensures_conditions b).mono fun own conditions hown => ?_
  subst hown
  simp [LanguageKind.emitElse]

lemma emit_defines_language (b : Block) (k : LanguageKind) :
    Defines board (defined b (.language k)) (k.emit b) := by
  cases k with
  | branch => exact emitBranch_defines b
  | operation =>
    intro left _ right _
    cases left <;> cases right <;> rfl
  | arithmetic | repetition =>
    unfold Defines
    simp only [LanguageKind.emit, LanguageKind.emitArithmetic, LanguageKind.emitBinary,
      Operator.apply, LanguageKind.emitRepetition, ensures_bind, ensures_ite, ensures_pure,
      ensures_argumentOr, ensures_valueOr, ensures_body, ensures_statement, ensures_expression,
      ensures_call, List.nil_append]
    exact ⟨fun _ _ _ => rfl, fun _ _ _ => rfl⟩
  | frame | number | text | boolean | compare | negate =>
    repeat intro _
    rfl

theorem emit_defines (g : Graph) (b : Block) (k : Kind) :
    Defines board (defined b k) (k.emit g b) := by
  cases k with
  | language k => exact emit_defines_language b k
  | spi k => exact emit_defines_spi b k
  | var k => exact emit_defines_variable g b k
  | pin k | serial k | motor k | time k | radio k | network k | voice k | sensor k | imu k | file k
  | gcode k =>
    -- These scripts make the same requests whatever they are answered.
    cases k <;> (repeat intro _) <;> rfl

end Kinds

/-! ### Functions are defined last -/

section Late

variable {s : Site Emit} {name : String} {e : Effect}

lemma spares_of_functionName? (h : functionName? e ≠ some name) : Spares (.function name) e := by
  refine spares_of_ne ?_ ?_
  · rintro x rfl hslot
    cases x with
    | function key text => exact h (congrArg some (Slot.function.inj hslot))
    | _ => cases hslot
  · rintro function xs rfl hslot
    exact h (congrArg some (Slot.function.inj hslot).symm)

lemma mem_defined {b : Block} {k : Kind} {g : Graph} (he : e ∈ ownRegistrations s (k.emit g b))
    (hname : functionName? e = some name) : name ∈ defined b k := by
  have hnames := Ensures.own (s := s) (emit_defines g b k)
  rw [← hnames]
  exact List.mem_filterMap.mpr ⟨e, he, hname⟩

/-- A script that does not define the function leaves its slot as it is. -/
lemma ownRegistrations_spare {b : Block} {k : Kind} {g : Graph} (h : name ∉ defined b k) :
    ∀ e ∈ ownRegistrations s (k.emit g b), Spares (.function name) e :=
  fun _ he => spares_of_functionName? fun hname => h (mem_defined he hname)

/-- A callback is defined when its body is there. -/
lemma late_callback {α : Type} {slot : Slot} {function socket : String} {params : List String}
    {f : Unit → Script α} (hf : Closed (f ())) :
    Late s slot (Script.callback function params socket >>= f) :=
  late_ask nofun fun _ => ⟨.inr hf, hf.late⟩

lemma late_define (g : Graph) (b : Block) (k : Kind) : Late s (.function name) (k.emit g b) := by
  by_cases hname : name ∈ defined b k
  · cases defining_of_mem hname with
    | interrupt =>
      -- The pin is declared and its mode is set before the body is asked for.
      refine late_ask nofun fun _ => late_register nofun (late_register nofun ?_)
      exact late_callback trivial
    | ticker => exact late_callback ⟨id, fun _ => trivial⟩
    | transfer h =>
      refine late_ask nofun fun data => Closed.late ?_
      change Closed (if slave b = "none" then _ else _)
      rw [if_neg h]
      exact ⟨id, fun _ => ⟨id, fun _ => ⟨id, fun _ => trivial⟩⟩⟩
    | setup =>
      refine Closed.late ?_
      repeat refine ⟨id, fun _ => ?_⟩
      trivial
    | command => exact late_ask nofun fun _ => Closed.late ⟨id, fun _ => ⟨id, fun _ => trivial⟩⟩
    | attach | home | move | setPosition => exact late_callback trivial
  · exact late_of_spares (ownRegistrations_spare hname)

end Late

section Emitted

variable {g : Graph} {board : Board} {indent name : String} {b : Block}

/-- A block that defines the function. -/
def DefinesFunction (name : String) (b : Block) : Prop :=
  ∃ k, b.kind? = some k ∧ name ∈ defined b k

/-- Without cycles, the last block to define a function leaves in the program what the function is,
as on its own. -/
theorem LastEmitted.leaves_function (hg : g.Acyclic)
    (h : LastEmitted g board indent (DefinesFunction name) b) :
    ∃ k before, b.kind? = some k ∧
      (ownRegistrations (g.site board indent (g.emitter board indent []) b) (k.emit g b)).foldl
        (deposit (.function name)) before = (finalRegistry g board indent).functions.get? name := by
  have hslot : ∀ key, Slot.function name ≠ .header key := nofun
  have hspares (run : Run) (hnot : ¬DefinesFunction name run.block) (before : Option String) :
      run.leave g board indent (.function name) before = before := by
    refine foldl_deposit_of_spares (ownRegistrations_spare fun hname => hnot ?_)
    exact ⟨run.kind, run.listed, hname⟩
  obtain ⟨busy, k, before, hreached, hk, hleft⟩ :=
    h.leaves hslot (fun _ _ c k => late_define g c k) hspares
  rw [← hg.site_eq hreached.mem hreached.leads]
  exact ⟨k, before, hk, hleft⟩

end Emitted

end MbedBlocks.Proofs
