import MbedBlocks.Proofs.Declarations

/-!
# Profiles of scripts

What the script of each kind comes to, whatever the fields and sockets of its block: whether its
code is a value or a statement, under which keys it declares objects, and which headers and handlers
it registers. All kinds are gone through once here; what they have in common follows from the
profiles.
-/

namespace MbedBlocks

open Code (Fragment)

def Code.Fragment.isValue : Fragment → Bool
  | .value _ _ => true
  | .statement _ => false

namespace Proofs

/-! ### The registrations of a script itself -/

section Own

variable {s : Site Emit} {α : Type} {Q : List Effect → α → Prop}

/-- The registrations that a script makes itself when it is run at a site, without those of the
blocks in its sockets. -/
def ownRegistrations (s : Site Emit) {α : Type} : Script α → List Effect
  | .done _ => []
  | .ask r next => registrations r ++ ownRegistrations s (next (s.answer r).result)

theorem Ensures.own {x : Script α} (h : Ensures s.board x Q) :
    Q (ownRegistrations s x) (s.emit x).result := by
  induction x generalizing Q with
  | done a => exact h
  | ask r next ih => exact ih _ (h _ (admits_answer s r))

end Own

/-! ### Profiles -/

def declarationKey? : Effect → Option String
  | .register (.declaration key _) => some key
  | _ => none

/-- The objects that a block of a kind declares: their family and what follows the stem of the
key. -/
def declared (board : Board) (b : Block) : Kind → List (Peripheral × String)
  | .pin .digitalWrite => [(.digitalOut, b.text "PIN")]
  | .pin .builtinLed => [(.digitalOut, b.text "BUILT_IN_LED")]
  | .pin .digitalRead => [(.digitalIn, b.text "PIN")]
  | .pin .analogRead => [(.analogIn, b.text "PIN")]
  | .pin .pwm => [(.pwmOut, b.text "PWM_PIN")]
  | .pin .tone | .pin .silence => [(.pwmOut, b.text "TONEPIN")]
  | .pin .interrupt => [(.interruptIn, b.text "Pin")]
  | .serial .setup => [(.serial, b.text "SERIAL_ID")]
  | .serial .readerSetup =>
    [(.readerLine, unitName board (b.text "SERIAL_ID") .serial),
      (.reader, unitName board (b.text "SERIAL_ID") .serial)]
  | .motor .servoWrite | .motor .servoRead => [(.servo, b.text "SERVO_PIN")]
  | .motor .stepperSetup => [(.stepper, b.text "STEP_Pin")]
  | .time .ticker => [(.ticker, Code.identifierSuffix b.id)]
  | .spi .setup => [(.spi, b.text "SPI_ID"), (.digitalOut, b.text "PIN")]
  | .spi .transferReturn =>
    if b.textOr "SPI_SS" "none" = "none" then [] else [(.digitalOut, b.textOr "SPI_SS" "none")]
  | .radio .setup => [(.radio, b.text "MOSI")]
  | .network .setup =>
    [(.networkInterface, ""), (.networkSocket, ""), (.networkClient, ""), (.networkSensors, ""),
      (.networkActuators, "")]
  | .voice .setup => [(.voice, "")]
  | .sensor .bh1750Setup => [(.bh1750, unitName board (b.text "I2C_SDA") .i2c)]
  | .sensor .bmp180Setup => [(.bmp180, unitName board (b.text "I2C_SDA") .i2c)]
  | .sensor .dht11Setup => [(.dht11, b.text "IO")]
  | .sensor .ds18b20Setup => [(.ds18b20, b.text "IO")]
  | .sensor .sr501Setup => [(.sr501, b.text "IO")]
  | .sensor .analogSetup => [(.level, b.text "IO")]
  | .imu .setup => [(.jy901, unitName board (b.text "TX") .serial)]
  | .var .declare | .var .declareArray =>
    [(.userVariable, b.textOr "VARNAME" VariableKind.defaultName)]
  | .file .card => [(.card, b.text "MOSI")]
  | .file .openFile | .file .print | .file .scan | .file .closeFile =>
    [(.file, b.textOr "FILE" "fp")]
  | _ => []

/-- The headers that programs include beside the first one, with their keys. -/
def headers : List (String × String) :=
  [("string", "#include <string>"), ("Stepper", "#include <stepper.h>"),
    ("nRF24L01P", "#include \"nRF24L01P.h\""), ("w5500", "#include \"networking.h\""),
    ("ld3320", "#include \"ld3320.h\""), ("SDFileSystem", "#include \"SDFileSystem.h\"")]

/-- A key stands for one header, and only the command handler is registered on condition. -/
def Standard : Effect → Prop
  | .register (.header key text) => (key, text) ∈ headers
  | .unlessDefined function rs =>
    function = NetworkKind.handler ∧ rs = NetworkKind.handlerRegistrations ""
  | _ => True

/-- What comes of a block's script: its own registrations and its code. -/
structure Profile (board : Board) (b : Block) (k : Kind) (own : List Effect)
    (fragment : Fragment) : Prop where
  shape : fragment.isValue = k.isValue
  declares : own.filterMap declarationKey? = (declared board b k).map fun d => d.1.stem ++ d.2
  standard : ∀ e ∈ own, Standard e

/-- A script declares no other objects than those of its kind. -/
lemma Profile.mem_declared {board : Board} {b : Block} {k : Kind} {own : List Effect}
    {fragment : Fragment} (h : Profile board b k own fragment) {p : Peripheral} {s text : String}
    (hmem : .register (.declaration (p.stem ++ s) text) ∈ own) : (p, s) ∈ declared board b k := by
  have hkey : p.stem ++ s ∈ (declared board b k).map fun d => d.1.stem ++ d.2 := by
    rw [← h.declares]
    exact List.mem_filterMap.mpr ⟨_, hmem, rfl⟩
  obtain ⟨⟨q, t⟩, hdeclared, hstem⟩ := List.mem_map.mp hkey
  obtain ⟨rfl, rfl⟩ := Peripheral.key_injective hstem
  exact hdeclared

/-! ### One kind after the other -/

section Kinds

variable {board : Board}

/-- The script of a block of the kind has its profile. -/
def Profiled (board : Board) (b : Block) (k : Kind) (x : Script Fragment) : Prop :=
  Ensures board x (Profile board b k)

lemma emit_profiled_pin (b : Block) (k : PinKind) : Profiled board b (.pin k) (k.emit b) := by
  unfold Profiled
  cases k with
  | digitalWrite | digitalRead | builtinLed | analogRead | highLow | pwm | pulse | pulseTimeout
  | interrupt | interruptPriority | tone | silence =>
    simp only [PinKind.emit, PinKind.emitWrite, digitalOut, PinKind.emitDigitalRead,
      PinKind.emitAnalogRead, PinKind.emitPwm, PinKind.pwmOut, PinKind.emitPulse,
      PinKind.emitPulseTimeout, PinKind.pulseLevel, PinKind.emitInterrupt, PinKind.emitTone,
      PinKind.emitSilence, ensures_bind, ensures_pure, ensures_argumentOr, ensures_valueOr,
      ensures_reserve, ensures_declare, ensures_addSetup, ensures_callback, ensures_statement,
      ensures_expression, ensures_call, List.nil_append, List.cons_append, List.append_nil]
    intros
    exact ⟨rfl, rfl, by simp [Standard]⟩

lemma emit_profiled_serial (b : Block) (k : SerialKind) :
    Profiled board b (.serial k) (k.emit b) := by
  unfold Profiled
  cases k with
  | setup | print | getChar | attach | content | readerSetup | waitCard | readUser | readPassword =>
    simp only [SerialKind.emit, SerialKind.emitSetup, SerialKind.lineUnit, SerialKind.emitPrint,
      PrintArguments.read, SerialKind.emitAttach, SerialKind.emitContent,
      SerialKind.emitReaderSetup, SerialKind.emitReaderCall, ensures_bind, ensures_pure,
      ensures_argumentOr, ensures_value, ensures_reserve, ensures_unit, ensures_declare,
      ensures_callback, ensures_statement, ensures_expression, ensures_call, List.nil_append,
      List.cons_append, List.append_nil]
    intros
    exact ⟨rfl, rfl, by simp [Standard]⟩

lemma emit_profiled_motor (b : Block) (k : MotorKind) :
    Profiled board b (.motor k) (k.emit b) := by
  unfold Profiled
  cases k with
  | servoWrite | servoRead | stepperSetup | stepperRotate | stepperWait =>
    simp only [MotorKind.emit, MotorKind.emitServoWrite, MotorKind.emitServoRead,
      MotorKind.servoOut, MotorKind.emitStepperSetup, MotorKind.emitStepperRotate, ensures_bind,
      ensures_pure, ensures_argumentOr, ensures_reserve, ensures_addInclude, ensures_declare,
      ensures_statement, ensures_call, List.nil_append, List.cons_append, List.append_nil]
    intros
    exact ⟨rfl, rfl, by simp [Standard, headers]⟩

lemma emit_profiled_time (b : Block) (k : TimeKind) : Profiled board b (.time k) (k.emit b) := by
  unfold Profiled
  cases k with
  | delay | delayMicros | millis | micros | halt | ticker =>
    simp only [TimeKind.emit, TimeKind.emitDelay, TimeKind.emitDelayMicros, TimeKind.emitTicker,
      ensures_bind, ensures_argumentOr, ensures_valueOr, ensures_callback, ensures_declare,
      ensures_statement, ensures_call, List.nil_append, List.cons_append, List.append_nil]
    intros
    exact ⟨rfl, rfl, by simp [Standard]⟩

lemma emit_profiled_spi (b : Block) (k : SpiKind) : Profiled board b (.spi k) (k.emit b) := by
  unfold Profiled
  cases k with
  | setup | transfer =>
    simp only [SpiKind.emit, SpiKind.emitSetup, SpiKind.emitTransfer, reserveBus, digitalOut,
      ensures_bind, ensures_pure, ensures_ite, ensures_argumentOr, ensures_valueOr, ensures_bus,
      ensures_reserve, ensures_declare, ensures_statement, List.nil_append, List.cons_append,
      List.append_nil, Classical.imp_and_neg_imp_iff]
    intros
    exact ⟨rfl, rfl, by simp [Standard]⟩
  | transferReturn =>
    -- Without a slave there is no select line to declare.
    by_cases hslave : b.textOr "SPI_SS" "none" = "none" <;>
      simp only [SpiKind.emit, SpiKind.emitTransferReturn, digitalOut, hslave, if_true, if_false,
        ensures_bind, ensures_pure, ensures_argumentOr, ensures_reserve, ensures_declare,
        ensures_addFunction, ensures_call, List.nil_append, List.cons_append, List.append_nil] <;>
      intros
    · exact ⟨rfl, by simp [declared, hslave], by simp⟩
    · exact ⟨rfl, by simp [declared, hslave, declarationKey?, Peripheral.stem], by simp [Standard]⟩

lemma emit_profiled_radio (b : Block) (k : RadioKind) :
    Profiled board b (.radio k) (k.emit b) := by
  unfold Profiled
  cases k with
  | setup | irq | check | readable | checksum | writeLength | connect =>
    simp only [RadioKind.emit, RadioKind.emitSetup, reserveBus, ensures_bind, ensures_reserve,
      ensures_addInclude, ensures_declare, ensures_statement, ensures_call, List.nil_append,
      List.cons_append, List.append_nil]
    exact ⟨rfl, rfl, by simp [Standard, headers]⟩

lemma emit_profiled_network (b : Block) (k : NetworkKind) :
    Profiled board b (.network k) (k.emit b) := by
  unfold Profiled
  cases k with
  | setup | yield | publish =>
    simp only [NetworkKind.emit, NetworkKind.emitSetup, NetworkKind.emitPublish, reserveBus,
      ensures_bind, ensures_argumentOr, ensures_reserve, ensures_addInclude, ensures_declare,
      ensures_provide, ensures_statement, List.nil_append, List.cons_append, List.append_nil]
    intros
    exact ⟨rfl, rfl, by simp [Standard, headers]⟩
  | command =>
    simp only [NetworkKind.emit, NetworkKind.emitCommand, NetworkKind.handlerRegistrations,
      List.forM_eq_forM, List.forM_cons, List.forM_nil, ensures_bind, ensures_pure, ensures_body,
      ensures_register, ensures_statement, List.nil_append, List.cons_append, List.append_nil]
    intros
    exact ⟨rfl, rfl, by simp [Standard, headers]⟩

lemma emit_profiled_voice (b : Block) (k : VoiceKind) :
    Profiled board b (.voice k) (k.emit b) := by
  unfold Profiled
  cases k with
  | setup | start | add | read =>
    simp only [VoiceKind.emit, VoiceKind.emitSetup, reserveBus, ensures_bind, ensures_reserve,
      ensures_addInclude, ensures_declare, ensures_statement, ensures_call, List.nil_append,
      List.cons_append, List.append_nil]
    exact ⟨rfl, rfl, by simp [Standard, headers]⟩

lemma emit_profiled_sensor (b : Block) (k : SensorKind) :
    Profiled board b (.sensor k) (k.emit b) := by
  unfold Profiled
  cases k with
  | bh1750Setup | bmp180Setup | dht11Setup | ds18b20Setup | sr501Setup | analogSetup =>
    simp only [SensorKind.emit, SensorKind.emitI2cSetup, SensorKind.emitPinSetup,
      SensorKind.emitAnalogSetup, ensures_bind, ensures_reserve, ensures_unit, ensures_declare,
      ensures_statement, List.nil_append, List.append_nil]
    exact ⟨rfl, rfl, by simp [Standard]⟩
  | bh1750Read | bmp180Temperature | bmp180Pressure | dht11Temperature | dht11Humidity
  | dht11Readable | ds18b20Temperature | ds18b20Readable | sr501Output | sr501Readable | sr501Reset
  | analogOutput | analogReadable | analogReset => exact ⟨rfl, rfl, by simp⟩

lemma emit_profiled_imu (b : Block) (k : ImuKind) : Profiled board b (.imu k) (k.emit b) := by
  unfold Profiled
  cases k with
  | setup | receive | acceleration | gyration | magnetism | attitude =>
    simp only [ImuKind.emit, ImuKind.emitSetup, ImuKind.emitGet, ensures_bind, ensures_argumentOr,
      ensures_reserve, ensures_unit, ensures_declare, ensures_statement, List.nil_append,
      List.append_nil]
    intros
    exact ⟨rfl, rfl, by simp [Standard]⟩

lemma emit_profiled_file (b : Block) (k : FileKind) : Profiled board b (.file k) (k.emit b) := by
  unfold Profiled
  cases k with
  | card | openFile | print | scan | closeFile =>
    simp only [FileKind.emit, FileKind.handle, FileKind.emitCard, FileKind.emitOpen,
      FileKind.emitPrint, PrintArguments.read, FileKind.emitScan, FileKind.emitClose, reserveBus,
      ensures_bind, ensures_pure, ensures_argumentOr, ensures_value, ensures_reserve,
      ensures_addInclude, ensures_declare, ensures_statement, List.nil_append, List.cons_append,
      List.append_nil]
    intros
    exact ⟨rfl, rfl, by simp [Standard, headers]⟩

lemma emit_profiled_gcode (b : Block) (k : GcodeKind) : Profiled board b (.gcode k) k.emit := by
  unfold Profiled
  cases k with
  | start | parse | home | move | setPosition =>
    simp only [GcodeKind.emit, GcodeKind.emitCallback, GcodeKind.emitParse, ensures_bind,
      ensures_argumentOr, ensures_callback, ensures_statement, List.append_nil]
    intros
    exact ⟨rfl, rfl, by simp [Standard]⟩

/-- The header of a type is a standard one, or there is none. -/
lemma ensures_includeFor (type : ValueType) :
    Ensures board (VariableKind.includeFor type) fun own _ =>
      own.filterMap declarationKey? = [] ∧ ∀ e ∈ own, Standard e := by
  unfold VariableKind.includeFor
  rw [ensures_ite, ensures_addInclude, ensures_pure]
  exact ⟨fun _ => ⟨rfl, by simp [Standard, headers]⟩, fun _ => ⟨rfl, by simp⟩⟩

/-- A declaration after the header of its type. -/
lemma profile_declaration {b : Block} {k : Kind} {own : List Effect} {key : String}
    (hk : k.isValue = false)
    (hkey : (declared board b k).map (fun d => d.1.stem ++ d.2) = [key])
    (hown : own.filterMap declarationKey? = [] ∧ ∀ e ∈ own, Standard e) (text : String) :
    Profile board b k (own ++ [.register (.declaration key text)]) (.statement "") := by
  refine ⟨hk.symm, ?_, List.forall_mem_append.mpr ⟨hown.2, by simp [Standard]⟩⟩
  rw [List.filterMap_append, hown.1, hkey]
  rfl

/-- Finding out what a cast is applied to registers nothing. -/
lemma ensures_castSource (g : Graph) (b : Block) :
    Ensures board (VariableKind.castSource g b) fun own _ => own = [] := by
  unfold VariableKind.castSource
  cases (b.values.get? "VARIABLE_SETTYPE_INPUT").bind g.get? with
  | none => exact rfl
  | some child =>
    rw [ensures_bind, ensures_value]
    intro code
    cases code with
    | none => exact rfl
    | some code => exact rfl

lemma isValue_convert (source : Option ValueType) (target : ValueType) (code : String) :
    (VariableKind.convert source target code).isValue = true := by
  unfold VariableKind.convert
  dsimp only
  split <;> rfl

lemma emit_profiled_variable (g : Graph) (b : Block) (k : VariableKind) :
    Profiled board b (.var k) (k.emit g b) := by
  unfold Profiled
  cases k with
  | declare =>
    simp only [VariableKind.emit, VariableKind.emitDeclare, ensures_bind, ensures_value,
      ensures_declare, ensures_statement, List.nil_append, List.append_nil]
    exact (ensures_includeFor _).mono fun own _ hown _ => profile_declaration rfl rfl hown _
  | declareArray =>
    simp only [VariableKind.emit, VariableKind.emitDeclareArray, ensures_bind, ensures_declare,
      ensures_statement, List.append_nil]
    exact (ensures_includeFor _).mono fun own _ hown => profile_declaration rfl rfl hown _
  | cast =>
    simp only [VariableKind.emit, VariableKind.emitCast, ensures_bind, ensures_ite,
      ensures_expression, ensures_pure, List.append_nil]
    refine (ensures_castSource g b).mono fun own source hown => ?_
    subst hown
    exact ⟨fun _ => ⟨rfl, rfl, by simp⟩, fun _ => ⟨isValue_convert _ _ _, rfl, by simp⟩⟩
  | get => exact ⟨rfl, rfl, by simp⟩
  | set =>
    simp only [VariableKind.emit, VariableKind.emitSet, ensures_bind, ensures_valueOr,
      ensures_statement]
    exact fun _ => ⟨rfl, rfl, by simp⟩

/-- The conditions of a branch register nothing. -/
lemma ensures_conditions (b : Block) :
    Ensures board ((LanguageKind.branches b).mapM LanguageKind.emitCondition) fun own _ =>
      own = [] := by
  have hcondition : ∀ n ∈ LanguageKind.branches b,
      Ensures board (LanguageKind.emitCondition n) fun own _ => ∀ e ∈ own, False := by
    intro n _
    simp [LanguageKind.emitCondition]
  exact (ensures_mapM hcondition).mono fun own _ hown => List.eq_nil_iff_forall_not_mem.mpr hown

lemma emitBranch_profiled (b : Block) :
    Profiled board b (.language .branch) (LanguageKind.emitBranch b) := by
  unfold Profiled LanguageKind.emitBranch
  rw [ensures_bind]
  refine (ensures_conditions b).mono fun own conditions hown => ?_
  subst hown
  simp only [LanguageKind.emitElse, ensures_bind, ensures_ite, ensures_body, ensures_pure,
    ensures_statement, List.nil_append]
  exact ⟨fun _ _ => ⟨rfl, rfl, by simp⟩, fun _ => ⟨rfl, rfl, by simp⟩⟩

lemma emit_profiled_language (b : Block) (k : LanguageKind) :
    Profiled board b (.language k) (k.emit b) := by
  cases k with
  | branch => exact emitBranch_profiled b
  | operation =>
    unfold Profiled
    simp only [LanguageKind.emit, LanguageKind.emitOperation, ensures_bind, ensures_value,
      List.nil_append]
    intro left right
    cases left <;> cases right <;> exact ⟨rfl, rfl, by simp⟩
  | arithmetic | repetition =>
    unfold Profiled
    simp only [LanguageKind.emit, LanguageKind.emitArithmetic, LanguageKind.emitBinary,
      Operator.apply, LanguageKind.emitRepetition, ensures_bind, ensures_ite, ensures_pure,
      ensures_argumentOr, ensures_valueOr, ensures_body, ensures_statement, ensures_expression,
      ensures_call, List.nil_append]
    exact ⟨fun _ _ _ => ⟨rfl, rfl, by simp⟩, fun _ _ _ => ⟨rfl, rfl, by simp⟩⟩
  | frame | number | text | boolean | compare | negate =>
    unfold Profiled
    simp only [LanguageKind.emit, LanguageKind.emitNumber, LanguageKind.emitBinary, Operator.apply,
      LanguageKind.emitNegate, ensures_bind, ensures_valueOr, ensures_statement,
      ensures_expression, List.nil_append]
    intros
    exact ⟨rfl, rfl, by simp⟩

theorem emit_profiled (g : Graph) (b : Block) (k : Kind) : Profiled board b k (k.emit g b) := by
  cases k with
  | language k => exact emit_profiled_language b k
  | pin k => exact emit_profiled_pin b k
  | serial k => exact emit_profiled_serial b k
  | motor k => exact emit_profiled_motor b k
  | time k => exact emit_profiled_time b k
  | spi k => exact emit_profiled_spi b k
  | radio k => exact emit_profiled_radio b k
  | network k => exact emit_profiled_network b k
  | voice k => exact emit_profiled_voice b k
  | sensor k => exact emit_profiled_sensor b k
  | imu k => exact emit_profiled_imu b k
  | var k => exact emit_profiled_variable g b k
  | file k => exact emit_profiled_file b k
  | gcode k => exact emit_profiled_gcode b k

end Kinds

/-! ### Blocks in a walk -/

section Blocks

variable (g : Graph) (board : Board) (indent : String)

/-- The registrations that a block makes itself while the blocks in `busy` are in progress. -/
def blockRegistrations (busy : List String) (b : Block) (k : Kind) : List Effect :=
  ownRegistrations (g.site board indent (g.emitter board indent (b.id :: busy)) b) (k.emit g b)

lemma blockRegistrations_profile (busy : List String) (b : Block) (k : Kind) :
    Profile board b k (blockRegistrations g board indent busy b k)
      (scriptRun g board indent busy b k).result :=
  Ensures.own (s := g.site board indent (g.emitter board indent (b.id :: busy)) b)
    (emit_profiled g b k)

lemma blockRegistrations_conform (busy : List String) (b : Block) (k : Kind) :
    ∀ e ∈ blockRegistrations g board indent busy b k, Grants (Conforms board) e :=
  Ensures.own (s := g.site board indent (g.emitter board indent (b.id :: busy)) b)
    (emit_conforming g b k)

end Blocks

end Proofs

end MbedBlocks
