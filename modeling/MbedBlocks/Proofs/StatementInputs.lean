import MbedBlocks.Proofs.Indentation
import MbedBlocks.Proofs.ScriptProfiles

/-!
# Statement inputs

Which statement inputs the blocks of each kind read, and where the lines of an input stand: in the
code of the block that has it, or in a function that the block defines. All blocks end the last line
of their code.
-/

namespace MbedBlocks.Proofs

open Code (Fragment braces functionText)
open LanguageKind (branchSocket branches)
open MbedBlocks.Graph (statementText)
open Text (LinesEnd exists_intercalate_eq lines linesEnd_closing linesEnd_empty lines_braces)

/-! ### The inputs that a script reads -/

section Reading

variable {s : Site Emit} {α β : Type}

def inputOf : Request → List String
  | .body socket => [socket]
  | _ => []

/-- The statement inputs that a script reads when it is run at a site. -/
def inputsRead (s : Site Emit) {α : Type} : Script α → List String
  | .done _ => []
  | .ask r next => inputOf r ++ inputsRead s (next (s.answer r).result)

lemma inputsRead_bind (x : Script α) (f : α → Script β) :
    inputsRead s (x >>= f) = inputsRead s x ++ inputsRead s (f (s.emit x).result) := by
  induction x with
  | done a => rfl
  | ask r next ih =>
    have hrest := ih (s.answer r).result
    change inputOf r ++ inputsRead s (next (s.answer r).result >>= f) = _
    rw [hrest, ← List.append_assoc]
    rfl

/-- What is emitted in an input that a script reads is emitted with the script. -/
lemma effects_of_inputsRead {x : Script α} {socket : String} (h : socket ∈ inputsRead s x) :
    (s.body socket).effects ⊆ (s.emit x).effects := by
  induction x with
  | done a => cases h
  | ask r next ih =>
    have hrun : (s.emit (.ask r next)).effects =
        (s.answer r).effects ++ (s.emit (next (s.answer r).result)).effects := rfl
    rw [hrun]
    rcases List.mem_append.mp h with h | h
    · cases r with
      | body input =>
        obtain rfl : socket = input := List.mem_singleton.mp h
        exact List.subset_append_left _ _
      | _ => cases h
    · exact List.subset_append_of_subset_right _ (ih _ h)

lemma ownRegistrations_subset (x : Script α) : ownRegistrations s x ⊆ (s.emit x).effects := by
  induction x with
  | done a => exact List.nil_subset _
  | ask r next ih =>
    exact List.append_subset.mpr
      ⟨List.subset_append_of_subset_left _ (registrations_subset s r),
        List.subset_append_of_subset_right _ (ih _)⟩

end Reading

/-! ### One kind after the other -/

/-- The statement inputs that blocks of a kind have. -/
def statementInputs (b : Block) : Kind → List String
  | .language .branch =>
    (branches b).map (branchSocket "DO") ++ if b.statements.contains "ELSE" then ["ELSE"] else []
  | .language .repetition => ["DO"]
  | .pin .interrupt | .serial .attach | .time .ticker | .network .command | .gcode .home
  | .gcode .move | .gcode .setPosition => ["function_body"]
  | _ => []

section Kinds

variable {s : Site Emit} {b : Block}

lemma inputsRead_spi (k : SpiKind) : inputsRead s (k.emit b) = [] := by
  cases k with
  | setup =>
    unfold SpiKind.emit SpiKind.emitSetup
    simp only [inputsRead_bind]
    split_ifs <;> rfl
  | transfer => rfl
  | transferReturn =>
    change inputsRead s (if _ then _ else _) = []
    split_ifs <;> rfl

lemma inputsRead_includeFor (type : ValueType) :
    inputsRead s (VariableKind.includeFor type) = [] := by
  unfold VariableKind.includeFor
  split_ifs <;> rfl

lemma inputsRead_variable (g : Graph) (k : VariableKind) : inputsRead s (k.emit g b) = [] := by
  cases k with
  | declare =>
    unfold VariableKind.emit VariableKind.emitDeclare
    simp only [inputsRead_bind, inputsRead_includeFor]
    rfl
  | declareArray =>
    unfold VariableKind.emit VariableKind.emitDeclareArray
    simp only [inputsRead_bind, inputsRead_includeFor]
    rfl
  | get => rfl
  | set => rfl
  | cast =>
    have hsource : inputsRead s (VariableKind.castSource g b) = [] := by
      unfold VariableKind.castSource
      split
      · rw [inputsRead_bind]
        split <;> rfl
      · rfl
    unfold VariableKind.emit VariableKind.emitCast
    simp only [inputsRead_bind, hsource]
    split_ifs <;> rfl

lemma inputsRead_conditions (ns : List Nat) :
    inputsRead s (ns.mapM LanguageKind.emitCondition) = ns.map (branchSocket "DO") := by
  induction ns with
  | nil => rfl
  | cons n ns ih =>
    rw [List.mapM_cons, inputsRead_bind, inputsRead_bind, ih]
    exact congrArg (branchSocket "DO" n :: ·) (List.append_nil _)

lemma inputsRead_language (k : LanguageKind) :
    inputsRead s (k.emit b) = statementInputs b (.language k) := by
  cases k with
  | frame | number | text | boolean | compare | negate => rfl
  | arithmetic =>
    change inputsRead s (if _ then _ else _) = []
    split_ifs <;> rfl
  | operation =>
    unfold LanguageKind.emit LanguageKind.emitOperation
    simp only [inputsRead_bind]
    split <;> rfl
  | branch =>
    have helse : inputsRead s (LanguageKind.emitElse b) =
        if b.statements.contains "ELSE" then ["ELSE"] else [] := by
      unfold LanguageKind.emitElse
      split_ifs <;> rfl
    unfold LanguageKind.emit LanguageKind.emitBranch
    simp only [inputsRead_bind, inputsRead_conditions, helse]
    exact congrArg _ (List.append_nil _)
  | repetition =>
    unfold LanguageKind.emit LanguageKind.emitRepetition
    split_ifs <;> rfl

/-- Every block reads the inputs of its kind. -/
theorem inputsRead_emit (g : Graph) (k : Kind) :
    inputsRead s (k.emit g b) = statementInputs b k := by
  cases k with
  | language k => exact inputsRead_language k
  | pin k => cases k <;> rfl
  | serial k => cases k <;> rfl
  | motor k => cases k <;> rfl
  | time k => cases k <;> rfl
  | spi k => exact (inputsRead_spi k).trans (by cases k <;> rfl)
  | radio k => cases k <;> rfl
  | network k => cases k <;> rfl
  | voice k => cases k <;> rfl
  | sensor k => cases k <;> rfl
  | imu k => cases k <;> rfl
  | var k => exact (inputsRead_variable g k).trans (by cases k <;> rfl)
  | file k => cases k <;> rfl
  | gcode k => cases k <;> rfl

/-! ### The lines of statements -/

lemma result_emit_mapM {α β : Type} (f : α → Script β) (l : List α) :
    (s.emit (l.mapM f)).result = l.map fun a => (s.emit (f a)).result := by
  induction l with
  | nil => rfl
  | cons a l ih =>
    rw [List.mapM_cons, Site.emit_bind, Emit.result_bind, Site.emit_bind, Emit.result_bind, ih]
    rfl

lemma result_branch :
    (s.emit (LanguageKind.emitBranch b)).result =
      .statement (" else ".intercalate
        ((branches b).map (fun n => (s.emit (LanguageKind.emitCondition n)).result) ++
          (s.emit (LanguageKind.emitElse b)).result) ++ "\n") := by
  rw [LanguageKind.emitBranch, Site.emit_bind, Emit.result_bind, Site.emit_bind, Emit.result_bind,
    result_emit_mapM]
  rfl

lemma result_repetition :
    ∃ condition, (s.emit (LanguageKind.emitRepetition b)).result =
      .statement ("while (" ++ condition ++ ") " ++ braces (s.body "DO").result ++ "\n") := by
  unfold LanguageKind.emitRepetition
  split_ifs <;> exact ⟨_, rfl⟩

/-- A block with a value has no lines. -/
lemma linesEnd_of_value (g : Graph) {k : Kind} (hk : k.isValue = true) :
    LinesEnd (statementText (some (s.emit (k.emit g b)).result)) := by
  have hshape : (s.emit (k.emit g b)).result.isValue = k.isValue :=
    (Ensures.own (emit_profiled g b k)).shape
  rw [hk] at hshape
  cases hresult : (s.emit (k.emit g b)).result with
  | value text level => exact linesEnd_empty
  | statement text =>
    rw [hresult] at hshape
    cases hshape

lemma linesEnd_language {k : LanguageKind} (hk : (Kind.language k).isValue ≠ true) :
    LinesEnd (statementText (some (s.emit (k.emit b)).result)) := by
  cases k with
  | frame => exact linesEnd_empty
  | branch =>
    rw [LanguageKind.emit, result_branch]
    exact linesEnd_closing _ rfl
  | repetition =>
    obtain ⟨condition, hresult⟩ := result_repetition (s := s) (b := b)
    rw [LanguageKind.emit, hresult]
    exact linesEnd_closing _ rfl
  | number | text | boolean | arithmetic | compare | operation | negate => exact absurd rfl hk

lemma linesEnd_pin {k : PinKind} (hk : (Kind.pin k).isValue ≠ true) :
    LinesEnd (statementText (some (s.emit (k.emit b)).result)) := by
  cases k with
  | digitalWrite | builtinLed | pwm | interrupt | interruptPriority | tone | silence =>
    exact linesEnd_closing _ rfl
  | digitalRead | analogRead | highLow | pulse | pulseTimeout => exact absurd rfl hk

lemma linesEnd_serial {k : SerialKind} (hk : (Kind.serial k).isValue ≠ true) :
    LinesEnd (statementText (some (s.emit (k.emit b)).result)) := by
  cases k with
  | setup | print | attach => exact linesEnd_closing _ rfl
  | readerSetup => exact linesEnd_empty
  | getChar | content | waitCard | readUser | readPassword => exact absurd rfl hk

lemma linesEnd_motor {k : MotorKind} (hk : (Kind.motor k).isValue ≠ true) :
    LinesEnd (statementText (some (s.emit (k.emit b)).result)) := by
  cases k with
  | servoWrite | stepperRotate | stepperWait => exact linesEnd_closing _ rfl
  | stepperSetup => exact linesEnd_empty
  | servoRead => exact absurd rfl hk

lemma linesEnd_time {k : TimeKind} (hk : (Kind.time k).isValue ≠ true) :
    LinesEnd (statementText (some (s.emit (k.emit b)).result)) := by
  cases k with
  | delay | delayMicros | ticker => exact linesEnd_closing _ rfl
  | halt => exact .inr ⟨"while(true);", rfl⟩
  | millis | micros => exact absurd rfl hk

lemma linesEnd_spi {k : SpiKind} (hk : (Kind.spi k).isValue ≠ true) :
    LinesEnd (statementText (some (s.emit (k.emit b)).result)) := by
  cases k with
  | setup =>
    simp only [SpiKind.emit, SpiKind.emitSetup, Site.emit_bind, Emit.result_bind]
    split_ifs <;> exact linesEnd_closing _ rfl
  | transfer => exact linesEnd_closing _ rfl
  | transferReturn => exact absurd rfl hk

lemma linesEnd_radio {k : RadioKind} (hk : (Kind.radio k).isValue ≠ true) :
    LinesEnd (statementText (some (s.emit (k.emit b)).result)) := by
  cases k with
  | setup | irq | check | writeLength | connect => exact linesEnd_closing _ rfl
  | readable | checksum => exact absurd rfl hk

lemma linesEnd_network {k : NetworkKind} :
    LinesEnd (statementText (some (s.emit (k.emit b)).result)) := by
  cases k with
  | setup | yield | publish => exact linesEnd_closing _ rfl
  | command => exact linesEnd_empty

lemma linesEnd_voice {k : VoiceKind} (hk : (Kind.voice k).isValue ≠ true) :
    LinesEnd (statementText (some (s.emit (k.emit b)).result)) := by
  cases k with
  | setup => exact .inr ⟨"ld3320_inst.init();", rfl⟩
  | start => exact .inr ⟨"ld3320_inst.start();", rfl⟩
  | add => exact linesEnd_closing _ rfl
  | read => exact absurd rfl hk

lemma linesEnd_sensor {k : SensorKind} (hk : (Kind.sensor k).isValue ≠ true) :
    LinesEnd (statementText (some (s.emit (k.emit b)).result)) := by
  cases k with
  | sr501Reset | analogReset => exact linesEnd_closing _ rfl
  | bh1750Setup | bmp180Setup | dht11Setup | ds18b20Setup | sr501Setup | analogSetup =>
    exact linesEnd_empty
  | _ => exact absurd rfl hk

lemma linesEnd_imu {k : ImuKind} : LinesEnd (statementText (some (s.emit (k.emit b)).result)) := by
  cases k with
  | setup => exact linesEnd_empty
  | receive | acceleration | gyration | magnetism | attitude => exact linesEnd_closing _ rfl

lemma linesEnd_variable (g : Graph) {k : VariableKind} (hk : (Kind.var k).isValue ≠ true) :
    LinesEnd (statementText (some (s.emit (k.emit g b)).result)) := by
  cases k with
  | declare | declareArray =>
    simp only [VariableKind.emit, VariableKind.emitDeclare, VariableKind.emitDeclareArray,
      Site.emit_bind, Emit.result_bind]
    exact linesEnd_empty
  | set => exact linesEnd_closing _ rfl
  | get | cast => exact absurd rfl hk

lemma linesEnd_file {k : FileKind} :
    LinesEnd (statementText (some (s.emit (k.emit b)).result)) := by
  cases k with
  | card => exact linesEnd_empty
  | openFile | print | scan | closeFile => exact linesEnd_closing _ rfl

lemma linesEnd_gcode {k : GcodeKind} : LinesEnd (statementText (some (s.emit k.emit).result)) := by
  cases k with
  | start => exact .inr ⟨"GCode_Init();", rfl⟩
  | parse => exact linesEnd_closing _ rfl
  | home | move | setPosition => exact linesEnd_empty

/-- Every block ends its last line. -/
theorem linesEnd_emit (g : Graph) (k : Kind) :
    LinesEnd (statementText (some (s.emit (k.emit g b)).result)) := by
  by_cases hk : k.isValue = true
  · exact linesEnd_of_value g hk
  cases k with
  | language k => exact linesEnd_language hk
  | pin k => exact linesEnd_pin hk
  | serial k => exact linesEnd_serial hk
  | motor k => exact linesEnd_motor hk
  | time k => exact linesEnd_time hk
  | spi k => exact linesEnd_spi hk
  | radio k => exact linesEnd_radio hk
  | network k => exact linesEnd_network
  | voice k => exact linesEnd_voice hk
  | sensor k => exact linesEnd_sensor hk
  | imu k => exact linesEnd_imu
  | var k => exact linesEnd_variable g hk
  | file k => exact linesEnd_file
  | gcode k => exact linesEnd_gcode

/-! ### Where the lines of an input stand -/

/-- The lines of an input stand in the code of the block, or in a function of their own. -/
inductive Outlet where
  | inPlace
  | function
deriving DecidableEq

/-- Branches and loops keep their inputs in place; all other blocks make them functions. -/
def outlet : Kind → Outlet
  | .language _ => .inPlace
  | _ => .function

/-- Each input of a branch is in braces in one of its pieces. -/
lemma exists_piece {socket : String} (h : socket ∈ statementInputs b (.language .branch)) :
    ∃ opening, opening ++ braces (s.body socket).result ∈
      (branches b).map (fun n => (s.emit (LanguageKind.emitCondition n)).result) ++
        (s.emit (LanguageKind.emitElse b)).result := by
  rcases List.mem_append.mp h with h | h
  · obtain ⟨n, hn, rfl⟩ := List.mem_map.mp h
    exact ⟨_, List.mem_append_left _ (List.mem_map_of_mem hn)⟩
  · split_ifs at h with helse
    · obtain rfl : socket = "ELSE" := List.mem_singleton.mp h
      refine ⟨"", List.mem_append_right _ ?_⟩
      rw [LanguageKind.emitElse, if_pos helse, String.empty_append]
      exact .head _
    · cases h

lemma lines_in_place {k : LanguageKind} {socket : String}
    (h : socket ∈ statementInputs b (.language k)) (hbody : LinesEnd (s.body socket).result) :
    lines (s.body socket).result.toList <:+:
      lines (statementText (some (s.emit (k.emit b)).result)).toList := by
  cases k with
  | branch =>
    obtain ⟨opening, hpiece⟩ := exists_piece (s := s) h
    obtain ⟨before, after, hjoin⟩ := exists_intercalate_eq " else " hpiece
    have htext : before ++ (opening ++ braces (s.body socket).result) ++ after ++ "\n" =
        before ++ opening ++ braces (s.body socket).result ++ (after ++ "\n") := by
      simp only [String.append_assoc]
    rw [LanguageKind.emit, result_branch, statementText, hjoin, htext]
    exact lines_braces _ _ hbody
  | repetition =>
    obtain rfl : socket = "DO" := List.mem_singleton.mp h
    obtain ⟨condition, hresult⟩ := result_repetition (s := s) (b := b)
    rw [LanguageKind.emit, hresult]
    exact lines_braces _ _ hbody
  | _ => cases h

/-- The body of the function is the chain as it is indented. -/
lemma function_of_input (g : Graph) {k : Kind} {socket : String} (hk : outlet k = .function)
    (h : socket ∈ statementInputs b k) :
    ∃ name params, .register (.function name (functionText "void" name params
      (s.body socket).result)) ∈ ownRegistrations s (k.emit g b) := by
  unfold statementInputs at h
  split at h
  case h_1 | h_2 => cases hk
  case h_10 => cases h
  all_goals obtain rfl : socket = "function_body" := List.mem_singleton.mp h
  case h_3 => exact ⟨_, _, .tail _ (.tail _ (.head _))⟩
  case h_6 => exact ⟨_, _, .tail _ (.head _)⟩
  all_goals exact ⟨_, _, .head _⟩

end Kinds

end MbedBlocks.Proofs
