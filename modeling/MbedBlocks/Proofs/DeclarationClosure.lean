import MbedBlocks.Proofs.Declarations

/-!
# Closure of declarations

Blocks that declare what they work on find it declared in the program, whatever other blocks do:
each object that their code accesses has a declaration, and each function that their code calls or
hands over by address has a definition.
-/

namespace MbedBlocks.Proofs

open Code (Fragment)

def fragmentText : Fragment → String
  | .value text _ => text
  | .statement text => text

/-! ### Names in code -/

/-- A name may begin after the text: it ends neither inside a name nor at the dot of an access. -/
def opensName (text : String) : Bool :=
  text.toList.getLast?.all fun c => !Text.isWord c && c != '.'

/-- A name that stands before the text is complete there. -/
def closesName (text : String) : Bool := text.toList.head?.all fun c => !Text.isWord c

lemma opensName_append {t : String} (ht : t.toList ≠ []) (h : opensName t) (s : String) :
    opensName (s ++ t) := by
  unfold opensName at h ⊢
  rwa [String.toList_append, List.getLast?_append_of_ne_nil _ ht]

lemma closesName_append {s : String} (hs : s.toList ≠ []) (h : closesName s) (t : String) :
    closesName (s ++ t) := by
  unfold closesName at h ⊢
  rwa [String.toList_append, List.head?_append_of_ne_nil _ hs]

/-- The text accesses a member of the object, and not of one whose name is longer. -/
def AccessesMember (object text : String) : Prop :=
  ∃ before after, opensName before ∧ text = before ++ object ++ "." ++ after

namespace AccessesMember

variable {object text : String}

lemma of_start (h : (object ++ ".").toList <+: text.toList) : AccessesMember object text := by
  obtain ⟨after, hafter⟩ := h
  refine ⟨"", String.ofList after, rfl, ?_⟩
  rw [← String.toList_inj, ← hafter]
  simp

/-- The access stays one behind a text after which a name may begin. -/
lemma append_left (h : AccessesMember object text) {opening : String} (hopens : opensName opening) :
    AccessesMember object (opening ++ text) := by
  obtain ⟨before, after, hbefore, rfl⟩ := h
  refine ⟨opening ++ before, after, ?_, by simp only [String.append_assoc]⟩
  by_cases hempty : before.toList = []
  · rwa [String.toList_eq_nil_iff.mp hempty, String.append_empty]
  · exact opensName_append hempty hbefore opening

lemma append_right (h : AccessesMember object text) (more : String) :
    AccessesMember object (text ++ more) := by
  obtain ⟨before, after, hbefore, rfl⟩ := h
  exact ⟨before, after ++ more, hbefore, by rw [String.append_assoc]⟩

end AccessesMember

/-! ### What blocks work on -/

/-- The objects that the code of a block works on, of those kinds that declare them themselves. -/
def operands (b : Block) : Kind → List (Peripheral × String)
  | .pin .digitalWrite => [(.digitalOut, b.text "PIN")]
  | .pin .builtinLed => [(.digitalOut, b.text "BUILT_IN_LED")]
  | .pin .digitalRead => [(.digitalIn, b.text "PIN")]
  | .pin .analogRead => [(.analogIn, b.text "PIN")]
  | .pin .pwm => [(.pwmOut, b.text "PWM_PIN")]
  | .pin .tone | .pin .silence => [(.pwmOut, b.text "TONEPIN")]
  | .pin .interrupt => [(.interruptIn, b.text "Pin")]
  | .motor .servoWrite | .motor .servoRead => [(.servo, b.text "SERVO_PIN")]
  | .time .ticker => [(.ticker, Code.identifierSuffix b.id)]
  | .spi .setup => [(.spi, b.text "SPI_ID"), (.digitalOut, b.text "PIN")]
  | .file .openFile | .file .print | .file .scan | .file .closeFile =>
    [(.file, b.textOr "FILE" "fp")]
  | _ => []

/-- The outputs that select a slave around a transfer. -/
def selected (b : Block) : Kind → List String
  | .spi .transferReturn =>
    if b.textOr "SPI_SS" "none" = "none" then [] else [b.textOr "SPI_SS" "none"]
  | _ => []

/-- The functions that the code of a block hands over by address or calls. -/
def callees (b : Block) : Kind → List String
  | .pin .interrupt => ["intr" ++ b.text "Pin" ++ "_interrupt_fun"]
  | .serial .attach => [b.text "SERIAL_Pins" ++ "_interrupt_fun"]
  | .time .ticker => ["tick" ++ Code.identifierSuffix b.id ++ "_handle"]
  | .spi .transferReturn =>
    if b.textOr "SPI_SS" "none" = "none" then [] else ["spiReturnSlave" ++ b.textOr "SPI_SS" "none"]
  | _ => []

/-- How code works on an object: it accesses a member of it, and a file it opens or passes to a
function. -/
def Operates (object text : String) : Peripheral → Prop
  | .file =>
    (object ++ " = fopen(").toList <+: text.toList ∨
      ∃ function ∈ ["fprintf", "fscanf", "fclose"], ∃ after,
        closesName after ∧ text = function ++ "(" ++ object ++ after
  | _ => AccessesMember object text

/-- How code refers to a function: it takes its address, or it is a call of it. -/
def References (function text : String) : Prop :=
  (∃ before after, closesName after ∧ text = before ++ "&" ++ function ++ after) ∨
    (function ++ "()").toList <+: text.toList

/-- A script that declares an object and works on it. -/
structure Accesses (board : Board) (p : Peripheral) (s : String) (own : List Effect)
    (fragment : Fragment) : Prop where
  declares : ∃ text, .register (.declaration (p.stem ++ s) text) ∈ own
  operates : Operates (p.object board s) (fragmentText fragment) p

lemma Accesses.of_start {board : Board} {p : Peripheral} {s text : String} {own : List Effect}
    {fragment : Fragment} (hp : p ≠ .file)
    (hdeclares : .register (.declaration (p.stem ++ s) text) ∈ own)
    (hstart : (p.object board s ++ ".").toList <+: (fragmentText fragment).toList) :
    Accesses board p s own fragment := by
  refine ⟨⟨text, hdeclares⟩, ?_⟩
  unfold Operates
  split
  · exact absurd rfl hp
  · exact .of_start hstart

lemma emit_accesses_pin (board : Board) (b : Block) (k : PinKind) :
    Ensures board (k.emit b) fun own fragment =>
      ∀ o ∈ operands b (.pin k), Accesses board o.1 o.2 own fragment := by
  cases k with
  | digitalWrite | builtinLed | digitalRead | analogRead | pwm | tone | silence | interrupt =>
    simp only [PinKind.emit, PinKind.emitWrite, digitalOut, PinKind.emitDigitalRead,
      PinKind.emitAnalogRead, PinKind.emitPwm, PinKind.emitTone, PinKind.emitSilence,
      PinKind.pwmOut, PinKind.emitInterrupt, operands, ensures_bind, ensures_argumentOr,
      ensures_valueOr, ensures_reserve, ensures_declare, ensures_addSetup, ensures_callback,
      ensures_pure, ensures_statement, ensures_call, List.nil_append, List.cons_append,
      List.append_nil, List.forall_mem_singleton]
    intros
    refine .of_start (by decide) List.mem_cons_self ?_
    simp [Peripheral.object, Peripheral.stem, fragmentText]
  | highLow | pulse | pulseTimeout | interruptPriority =>
    exact ensures_of_forall _ (by simp [operands])

lemma emit_accesses_motor (board : Board) (b : Block) (k : MotorKind) :
    Ensures board (k.emit b) fun own fragment =>
      ∀ o ∈ operands b (.motor k), Accesses board o.1 o.2 own fragment := by
  cases k with
  | servoWrite | servoRead =>
    simp only [MotorKind.emit, MotorKind.emitServoWrite, MotorKind.emitServoRead,
      MotorKind.servoOut, operands, ensures_bind, ensures_argumentOr, ensures_reserve,
      ensures_declare, ensures_pure, ensures_statement, ensures_call, List.nil_append,
      List.append_nil, List.forall_mem_singleton]
    intros
    refine .of_start (by decide) List.mem_cons_self ?_
    simp [Peripheral.object, fragmentText]
  | stepperSetup | stepperRotate | stepperWait => exact ensures_of_forall _ (by simp [operands])

lemma emit_accesses_time (board : Board) (b : Block) (k : TimeKind) :
    Ensures board (k.emit b) fun own fragment =>
      ∀ o ∈ operands b (.time k), Accesses board o.1 o.2 own fragment := by
  cases k with
  | ticker =>
    simp only [TimeKind.emit, TimeKind.emitTicker, operands, ensures_bind, ensures_callback,
      ensures_declare, ensures_statement, List.cons_append, List.nil_append, List.append_nil,
      List.forall_mem_singleton]
    intros
    refine .of_start (by decide) (List.mem_cons_of_mem _ List.mem_cons_self) ?_
    simp [Peripheral.object, Peripheral.stem, fragmentText]
  | delay | delayMicros | millis | micros | halt => exact ensures_of_forall _ (by simp [operands])

lemma emit_accesses_spi (board : Board) (b : Block) (k : SpiKind) :
    Ensures board (k.emit b) fun own fragment =>
      ∀ o ∈ operands b (.spi k), Accesses board o.1 o.2 own fragment := by
  cases k with
  | setup =>
    simp only [SpiKind.emit, SpiKind.emitSetup, reserveBus, digitalOut, operands, ensures_bind,
      ensures_valueOr, ensures_bus, ensures_ite, ensures_reserve, ensures_declare, ensures_pure,
      ensures_statement, List.cons_append, List.nil_append, List.append_nil, List.forall_mem_cons,
      Classical.imp_and_neg_imp_iff]
    intro frequency
    refine ⟨.of_start (by decide) List.mem_cons_self ?_,
      ⟨⟨_, List.mem_cons_of_mem _ List.mem_cons_self⟩, ?_⟩, by simp⟩
    · simp [Peripheral.object, Peripheral.stem, fragmentText]
    · -- The chip select is written last.
      change AccessesMember _ (_ ++ ");\n" ++ ("myDigitalOut" ++ b.text "PIN") ++ ".write(0);\n")
      rw [String.append_assoc]
      refine .append_left (.of_start ?_) (opensName_append (by decide) (by decide) _)
      simp [Peripheral.object, Peripheral.stem]
  | transfer | transferReturn => exact ensures_of_forall _ (by simp [operands])

/-- A file that is the first of several arguments of a call. -/
lemma operates_of_arguments (function : String) (hmem : function ∈ ["fprintf", "fscanf", "fclose"])
    (object second : String) (more : List String) (closing : String) :
    Operates object (function ++ "(" ++ ",".intercalate (object :: second :: more) ++ closing)
      .file := by
  refine .inr ⟨function, hmem, "," ++ (",".intercalate (second :: more) ++ closing), ?_, ?_⟩
  · exact closesName_append (by decide) (by decide) _
  · simp only [String.intercalate_cons_cons, String.append_assoc]

lemma emit_accesses_file (board : Board) (b : Block) (k : FileKind) :
    Ensures board (k.emit b) fun own fragment =>
      ∀ o ∈ operands b (.file k), Accesses board o.1 o.2 own fragment := by
  cases k with
  | openFile =>
    simp only [FileKind.emit, FileKind.handle, FileKind.emitOpen, operands, ensures_bind,
      ensures_argumentOr, ensures_declare, ensures_pure, ensures_statement,
      List.append_nil, List.forall_mem_singleton]
    intro path
    refine ⟨⟨_, List.mem_cons_self⟩, .inl ?_⟩
    simp [fragmentText, Peripheral.object]
  | print =>
    simp only [FileKind.emit, FileKind.handle, FileKind.emitPrint, PrintArguments.read, operands,
      ensures_bind, ensures_argumentOr, ensures_value, ensures_declare, ensures_pure,
      ensures_statement, List.append_nil, List.forall_mem_singleton]
    intro content extra
    refine ⟨⟨_, List.mem_cons_self⟩, ?_⟩
    rw [fragmentText, PrintArguments.call, List.singleton_append]
    exact operates_of_arguments "fprintf" (by simp) _ _ _ _
  | scan =>
    simp only [FileKind.emit, FileKind.handle, FileKind.emitScan, operands, ensures_bind,
      ensures_argumentOr, ensures_value, ensures_declare, ensures_pure, ensures_statement,
      List.append_nil, List.forall_mem_singleton]
    intro content extra
    exact ⟨⟨_, List.mem_cons_self⟩, operates_of_arguments "fscanf" (by simp) _ _ _ _⟩
  | closeFile =>
    simp only [FileKind.emit, FileKind.handle, FileKind.emitClose, operands, ensures_bind,
      ensures_declare, ensures_pure, ensures_statement, List.append_nil, List.forall_mem_singleton]
    exact ⟨⟨_, List.mem_cons_self⟩, .inr ⟨"fclose", by simp, ");\n", by decide, rfl⟩⟩
  | card => exact ensures_of_forall _ (by simp [operands])

theorem emit_accesses (g : Graph) (board : Board) (b : Block) (k : Kind) :
    Ensures board (k.emit g b) fun own fragment =>
      ∀ o ∈ operands b k, Accesses board o.1 o.2 own fragment := by
  cases k with
  | pin k => exact emit_accesses_pin board b k
  | motor k => exact emit_accesses_motor board b k
  | time k => exact emit_accesses_time board b k
  | spi k => exact emit_accesses_spi board b k
  | file k => exact emit_accesses_file board b k
  | language k | serial k | radio k | network k | voice k | sensor k | imu k | var k | gcode k =>
    exact ensures_of_forall _ (by simp [operands])

/-- The output of a slave is declared by the block that selects it. -/
lemma emit_selects (g : Graph) (board : Board) (b : Block) (k : Kind) :
    Ensures board (k.emit g b) fun own _ => ∀ pin ∈ selected b k, ∃ text,
      .register (.declaration (Peripheral.digitalOut.stem ++ pin) text) ∈ own := by
  by_cases hk : k = .spi .transferReturn
  · subst hk
    by_cases hslave : b.textOr "SPI_SS" "none" = "none"
    · exact ensures_of_forall _ (by simp [selected, hslave])
    · simp only [Kind.emit, SpiKind.emit, SpiKind.emitTransferReturn, digitalOut, selected, hslave,
        if_false, ensures_bind, ensures_argumentOr, ensures_reserve, ensures_declare, ensures_pure,
        ensures_addFunction, ensures_call, List.nil_append, List.cons_append, List.append_nil,
        List.forall_mem_singleton]
      exact fun _ => ⟨_, List.mem_cons_self⟩
  · have hnone : selected b k = [] := by
      unfold selected
      split
      · exact absurd rfl hk
      · rfl
    exact ensures_of_forall _ (by simp [hnone])

/-- A script that defines a function and refers to it. -/
structure Calls (function : String) (own : List Effect) (fragment : Fragment) : Prop where
  defines : ∃ text, .register (.function function text) ∈ own
  references : References function (fragmentText fragment)

lemma references_address {call s : String} (hcall : call = s ++ "&") (before function : String)
    {after : String} (hafter : closesName after) :
    References function (before ++ call ++ function ++ after) := by
  subst hcall
  exact .inl ⟨before ++ s, after, hafter, by simp only [String.append_assoc]⟩

theorem emit_calls (g : Graph) (board : Board) (b : Block) (k : Kind) :
    Ensures board (k.emit g b) fun own fragment =>
      ∀ function ∈ callees b k, Calls function own fragment := by
  cases k with
  | pin k =>
    cases k with
    | interrupt =>
      simp only [Kind.emit, PinKind.emit, PinKind.emitInterrupt, callees, ensures_bind,
        ensures_reserve, ensures_declare, ensures_addSetup, ensures_callback, ensures_statement,
        List.nil_append, List.cons_append, List.append_nil, List.forall_mem_singleton]
      intro code
      refine ⟨⟨_, List.mem_cons_of_mem _ (List.mem_cons_of_mem _ List.mem_cons_self)⟩, ?_⟩
      exact references_address (s := "(") rfl _ _ (by decide)
    | _ => exact ensures_of_forall _ (by simp [callees])
  | serial k =>
    cases k with
    | attach =>
      simp only [Kind.emit, SerialKind.emit, SerialKind.emitAttach, callees, ensures_bind,
        ensures_callback, ensures_statement, List.append_nil, List.forall_mem_singleton]
      intro code
      refine ⟨⟨_, List.mem_cons_self⟩, ?_⟩
      exact references_address (s := ".attach(") rfl _ _ (by decide)
    | _ => exact ensures_of_forall _ (by simp [callees])
  | time k =>
    cases k with
    | ticker =>
      simp only [Kind.emit, TimeKind.emit, TimeKind.emitTicker, callees, ensures_bind,
        ensures_callback, ensures_declare, ensures_statement, List.nil_append, List.cons_append,
        List.append_nil, List.forall_mem_singleton]
      intro code
      refine ⟨⟨_, List.mem_cons_self⟩, ?_⟩
      generalize "tick" ++ Code.identifierSuffix b.id ++ "_handle" = function
      rw [fragmentText, String.append_assoc, String.append_assoc]
      exact references_address (s := ".attach(") rfl _ _
        (closesName_append (s := ",") (by decide) (by decide) _)
    | _ => exact ensures_of_forall _ (by simp [callees])
  | spi k =>
    cases k with
    | transferReturn =>
      by_cases hslave : b.textOr "SPI_SS" "none" = "none"
      · exact ensures_of_forall _ (by simp [callees, hslave])
      · simp only [Kind.emit, SpiKind.emit, SpiKind.emitTransferReturn, digitalOut, callees, hslave,
          if_false, ensures_bind, ensures_argumentOr, ensures_reserve, ensures_declare,
          ensures_pure, ensures_addFunction, ensures_call, List.nil_append, List.cons_append,
          List.append_nil, List.forall_mem_singleton]
        intro data
        exact ⟨⟨_, List.mem_cons_of_mem _ List.mem_cons_self⟩, .inr List.prefix_rfl⟩
    | _ => exact ensures_of_forall _ (by simp [callees])
  | language k | motor k | radio k | network k | voice k | sensor k | imu k | var k | file k
  | gcode k => exact ensures_of_forall _ (by simp [callees])

/-- An emitted block finds all that it works on declared and all that it refers to defined,
whatever is emitted before it or after it. -/
theorem declaration_closure (g : Graph) (board : Board) (options : Options) {b : Block}
    {fragment : Fragment} {k : Kind} (h : (b, fragment) ∈ emitted g board options.indent)
    (hk : b.kind? = some k) :
    let sections := (Generator.new g board options).program.sections
    (∀ o ∈ operands b k, Operates (o.1.object board o.2) (fragmentText fragment) o.1 ∧
      ∃ text ∈ sections.declarations, o.1.Declares board o.2 text) ∧
    (∀ pin ∈ selected b k,
      ∃ text ∈ sections.declarations, Peripheral.digitalOut.Declares board pin text) ∧
    ∀ function ∈ callees b k, References function (fragmentText fragment) ∧
      ∃ returns params body,
        (finalRegistry g board options.indent).functions.get? function =
          some (Code.functionText returns function params body) ∧
        Code.functionText returns function params body ∈ sections.functions := by
  dsimp only
  rw [sections_program]
  obtain ⟨own, haccesses, hown⟩ := ensured_of_emitted h hk (emit_accesses g board b k)
  obtain ⟨own', hselects, hown'⟩ := ensured_of_emitted h hk (emit_selects g board b k)
  obtain ⟨own'', hcalls, hown''⟩ := ensured_of_emitted h hk (emit_calls g board b k)
  refine ⟨fun o ho => ?_, fun pin hpin => ?_, fun function hfunction => ?_⟩
  · obtain ⟨⟨text, hdeclares⟩, hoperates⟩ := haccesses o ho
    exact ⟨hoperates, exists_declaration (hown hdeclares)⟩
  · obtain ⟨text, hdeclares⟩ := hselects pin hpin
    exact exists_declaration (hown' hdeclares)
  · obtain ⟨⟨text, hdefines⟩, hreferences⟩ := hcalls function hfunction
    obtain ⟨returns, params, body, hentry⟩ := exists_function (hown'' hdefines)
    exact ⟨hreferences, returns, params, body, hentry, Keyed.mem_values_of_get? hentry⟩

/-- A button that lights the LED. -/
def button : Block :=
  { id := "button"
    kind := "io_interrupt"
    fields := Dict.insert {} "Pin" (.text "PC_13")
    statements := Dict.insert {} "function_body" "light" }

def buttonGraph : Graph :=
  { blocks :=
      [button,
       { id := "light"
         kind := "io_builtin_led"
         fields := Dict.insert {} "BUILT_IN_LED" (.text "PA_5") }] }

theorem declaration_closure_button :
    ∃ fragment, (button, fragment) ∈ emitted buttonGraph Board.Nucleo.profile "  " ∧
      AccessesMember "intrPC_13" (fragmentText fragment) ∧
      "InterruptIn intrPC_13(PC_13);" ∈
        (Generator.new buttonGraph Board.Nucleo.profile {}).program.sections.declarations ∧
      References "intrPC_13_interrupt_fun" (fragmentText fragment) ∧
      ∃ returns params body,
        Code.functionText returns "intrPC_13_interrupt_fun" params body ∈
          (Generator.new buttonGraph Board.Nucleo.profile {}).program.sections.functions := by
  have hkind : button.kind? = some (.pin .interrupt) := by decide
  have htop : button ∈ buttonGraph.topBlocks := by decide
  have hself : buttonGraph.get? button.id = some button := by decide
  obtain ⟨fragment, hfragment⟩ : ∃ fragment,
      (button, fragment) ∈ emitted buttonGraph Board.Nucleo.profile "  " :=
    exists_mem_emitted htop hself hkind (by decide) (by decide)
  obtain ⟨hoperands, -, hcallees⟩ :=
    declaration_closure buttonGraph Board.Nucleo.profile {} hfragment hkind
  obtain ⟨hoperates, text, htext, opening, closing, rfl, rfl, rfl⟩ :=
    hoperands (.interruptIn, "PC_13") (by decide)
  obtain ⟨hreferences, returns, params, body, -, hdefined⟩ :=
    hcallees "intrPC_13_interrupt_fun" (by decide)
  exact ⟨fragment, hfragment, hoperates, htext, hreferences, returns, params, body, hdefined⟩

end MbedBlocks.Proofs
