import MbedBlocks.Proofs.RegistryEntries
import MbedBlocks.Proofs.ScriptSpec

/-!
# Declarations

The keys of declarations fall into disjoint families, one for each kind of object, and every script
declares under a key of a family the object that belongs to it. So whatever else is emitted, an
object that some script declares is declared in the program.
-/

namespace MbedBlocks.Proofs

open Code (Fragment)

/-- The kinds of objects that programs declare. -/
inductive Peripheral where
  | digitalOut
  | digitalIn
  | analogIn
  | pwmOut
  | interruptIn
  | serial
  | readerLine
  | reader
  | servo
  | stepper
  | ticker
  | spi
  | radio
  | networkInterface
  | networkSocket
  | networkClient
  | networkSensors
  | networkActuators
  | voice
  | bh1750
  | bmp180
  | dht11
  | ds18b20
  | sr501
  | level
  | jy901
  | userVariable
  | file
  | card
deriving DecidableEq, Repr

namespace Peripheral

def all : List Peripheral :=
  [digitalOut, digitalIn, analogIn, pwmOut, interruptIn, serial, readerLine, reader, servo, stepper,
    ticker, spi, radio, networkInterface, networkSocket, networkClient, networkSensors,
    networkActuators, voice, bh1750, bmp180, dht11, ds18b20, sr501, level, jy901, userVariable,
    file, card]

lemma mem_all (p : Peripheral) : p ∈ all := by cases p <;> decide

/-- How the keys of a family begin. What follows is a pin, a unit or a name. -/
def stem : Peripheral → String
  | digitalOut => "myDigitalOut"
  | digitalIn => "myDigitalIn"
  | analogIn => "io_"
  | pwmOut => "pwm_"
  | interruptIn => "intr"
  | serial => "serial_"
  | readerLine => "pn_hsu_"
  | reader => "pn532_"
  | servo => "servo_"
  | stepper => "stepper"
  | ticker => "tick"
  | spi => "spi_"
  | radio => "nrf24_"
  | networkInterface => "w5500_wiz"
  | networkSocket => "w5500sock_"
  | networkClient => "w5500client_"
  | networkSensors => "w5500sensors_"
  | networkActuators => "w5500actuators_"
  | voice => "ld3320_inst"
  | bh1750 => "bh1750_"
  | bmp180 => "bmp180_"
  | dht11 => "dht11_"
  | ds18b20 => "ds18B20_"
  | sr501 => "sr501_"
  | level => "analog_"
  | jy901 => "jy901_"
  | userVariable => "var_"
  | file => "file_"
  | card => "sd_"

lemma stem_prefix_free : ∀ p ∈ all, ∀ q ∈ all, p.stem.toList <+: q.stem.toList → p = q := by
  decide +kernel

/-- A key tells its family and what follows the stem. -/
theorem key_injective {p q : Peripheral} {s t : String} (h : p.stem ++ s = q.stem ++ t) :
    p = q ∧ s = t := by
  have hchars : p.stem.toList ++ s.toList = q.stem.toList ++ t.toList := by
    rw [← String.toList_append, ← String.toList_append, h]
  -- Of two stems at the start of one key, the shorter begins the longer.
  have hpq : p = q := by
    have hp : p.stem.toList <+: q.stem.toList ++ t.toList := hchars ▸ List.prefix_append _ _
    rcases List.prefix_or_prefix_of_prefix hp (List.prefix_append _ _) with hstart | hstart
    · exact stem_prefix_free p p.mem_all q q.mem_all hstart
    · exact (stem_prefix_free q q.mem_all p p.mem_all hstart).symm
  subst hpq
  exact ⟨rfl, String.toList_inj.mp (List.append_cancel_left hchars)⟩

/-- The name of the object under a key. Serial lines are named after their unit, variables and files
after themselves. -/
def object (board : Board) (s : String) : Peripheral → String
  | analogIn => "myIO" ++ s
  | pwmOut => "myPwm" ++ s
  | servo => "myServo" ++ s
  | serial => unitName board s .serial
  | userVariable | file => s
  | p => p.stem ++ s

/-- How declarations of a family begin, up to the object. -/
def Opens (opening : String) : Peripheral → Prop
  | digitalOut => opening = "DigitalOut "
  | digitalIn => opening = "DigitalIn "
  | analogIn => opening = "AnalogIn "
  | pwmOut | servo => opening = "PwmOut "
  | interruptIn => opening = "InterruptIn "
  | serial | readerLine => opening = "Serial "
  | reader => opening = "PN532Checker "
  | stepper => opening = "Stepper "
  | ticker => opening = "Ticker "
  | spi => opening = "SPI "
  | radio => opening = "nRF24L01P "
  | networkInterface => opening = "WIZnetInterface "
  | networkSocket => opening = "MQTTSocket "
  | networkClient => opening = "MClient "
  | networkSensors | networkActuators => opening = "const char* "
  | voice => opening = "VoiceRecognition "
  | bh1750 => opening = "BH1750 "
  | bmp180 => opening = "BMP180 "
  | dht11 => opening = "dht11 "
  | ds18b20 => opening = "DS18B20 "
  | sr501 => opening = "sr501 "
  | level => opening = "YL "
  | jy901 => opening = "JY901 "
  | userVariable => ∃ type : ValueType, opening = type.spelling ++ " "
  | file => opening = "FILE *"
  | card => opening = "SDFileSystem "

/-- How they go on after the object: objects on one pin are constructed from that pin, others from
a list of arguments. -/
def Closes (s closing : String) : Peripheral → Prop
  | digitalOut | digitalIn | analogIn | pwmOut | interruptIn | servo | dht11 | ds18b20 | sr501 =>
    closing = "(" ++ s ++ ");"
  | ticker | file | networkSocket => closing = ";"
  | stepper => ∃ pins, closing = " = \x7b" ++ pins ++ "\x7d;"
  | networkSensors | networkActuators => ∃ rows, closing = "[][2] = \x7b" ++ rows ++ "\x7d;"
  | userVariable =>
    closing = ";" ∨ (∃ code, closing = " = " ++ code ++ ";") ∨
      ∃ length, closing = "[" ++ length ++ "];"
  | _ => ∃ arguments, closing = "(" ++ arguments ++ ");"

/-- The texts that declare the object under a key. -/
def Declares (board : Board) (p : Peripheral) (s text : String) : Prop :=
  ∃ opening closing, p.Opens opening ∧ p.Closes s closing ∧
    text = opening ++ p.object board s ++ closing

end Peripheral

/-- A declaration declares the object that belongs to its key, and a function has its key for a
name. -/
def Conforms (board : Board) : Registration → Prop
  | .declaration key text => ∃ p s, key = Peripheral.stem p ++ s ∧ p.Declares board s text
  | .function key text => ∃ returns params body, text = Code.functionText returns key params body
  | _ => True

/-! ### The texts of declarations

One lemma for each text that a script registers.
-/

section Texts

variable {board : Board}

@[simp] lemma conforms_header (key text : String) : Conforms board (.header key text) := trivial

@[simp] lemma conforms_setup (key text : String) (runFirst : Bool) :
    Conforms board (.setup key text runFirst) := trivial

@[simp] lemma conforms_function (returns key : String) (params : List String) (body : String) :
    Conforms board (.function key (Code.functionText returns key params body)) :=
  ⟨returns, params, body, rfl⟩

lemma Conforms.of_text (p : Peripheral) (s opening closing : String) {text : String}
    (hopens : p.Opens opening) (hcloses : p.Closes s closing)
    (htext : text = opening ++ p.object board s ++ closing) :
    Conforms board (.declaration (p.stem ++ s) text) :=
  ⟨p, s, rfl, opening, closing, hopens, hcloses, htext⟩

/-- Objects that are constructed from one pin. -/
lemma conforms_pin (p : Peripheral) (pin opening : String) (hopens : p.Opens opening)
    (hcloses : p.Closes pin ("(" ++ pin ++ ");")) :
    Conforms board (.declaration (p.stem ++ pin)
      (opening ++ p.object board pin ++ "(" ++ pin ++ ");")) :=
  .of_text p pin opening _ hopens hcloses (by simp only [String.append_assoc])

@[simp] lemma conforms_digitalOut (pin : String) :
    Conforms board (.declaration ("myDigitalOut" ++ pin)
      ("DigitalOut " ++ ("myDigitalOut" ++ pin) ++ "(" ++ pin ++ ");")) :=
  conforms_pin .digitalOut pin _ rfl rfl

@[simp] lemma conforms_digitalIn (pin : String) :
    Conforms board (.declaration ("myDigitalIn" ++ pin)
      ("DigitalIn " ++ ("myDigitalIn" ++ pin) ++ "(" ++ pin ++ ");")) :=
  conforms_pin .digitalIn pin _ rfl rfl

@[simp] lemma conforms_analogIn (pin : String) :
    Conforms board (.declaration ("io_" ++ pin)
      ("AnalogIn " ++ ("myIO" ++ pin) ++ "(" ++ pin ++ ");")) :=
  conforms_pin .analogIn pin _ rfl rfl

@[simp] lemma conforms_pwmOut (pin : String) :
    Conforms board (.declaration ("pwm_" ++ pin)
      ("PwmOut " ++ ("myPwm" ++ pin) ++ "(" ++ pin ++ ");")) :=
  conforms_pin .pwmOut pin _ rfl rfl

@[simp] lemma conforms_interruptIn (pin : String) :
    Conforms board (.declaration ("intr" ++ pin)
      ("InterruptIn " ++ ("intr" ++ pin) ++ "(" ++ pin ++ ");")) :=
  conforms_pin .interruptIn pin _ rfl rfl

@[simp] lemma conforms_servo (pin : String) :
    Conforms board (.declaration ("servo_" ++ pin)
      ("PwmOut " ++ ("myServo" ++ pin) ++ "(" ++ pin ++ ");")) :=
  conforms_pin .servo pin _ rfl rfl

@[simp] lemma conforms_dht11 (pin : String) :
    Conforms board (.declaration ("dht11_" ++ pin)
      ("dht11 " ++ ("dht11_" ++ pin) ++ "(" ++ pin ++ ");")) :=
  conforms_pin .dht11 pin _ rfl rfl

@[simp] lemma conforms_ds18b20 (pin : String) :
    Conforms board (.declaration ("ds18B20_" ++ pin)
      ("DS18B20 " ++ ("ds18B20_" ++ pin) ++ "(" ++ pin ++ ");")) :=
  conforms_pin .ds18b20 pin _ rfl rfl

@[simp] lemma conforms_sr501 (pin : String) :
    Conforms board (.declaration ("sr501_" ++ pin)
      ("sr501 " ++ ("sr501_" ++ pin) ++ "(" ++ pin ++ ");")) :=
  conforms_pin .sr501 pin _ rfl rfl

/-- Objects that are constructed from a list of arguments. -/
lemma conforms_arguments (p : Peripheral) (s opening arguments : String) (hopens : p.Opens opening)
    (hcloses : p.Closes s ("(" ++ arguments ++ ");")) {text : String}
    (htext : text = opening ++ p.object board s ++ "(" ++ arguments ++ ");") :
    Conforms board (.declaration (p.stem ++ s) text) :=
  .of_text p s opening _ hopens hcloses (by rw [htext]; simp only [String.append_assoc])

/-- Objects that are constructed from two pins. -/
lemma conforms_pair (p : Peripheral) (s opening pin pin' : String) (hopens : p.Opens opening)
    (hcloses : ∀ arguments, p.Closes s ("(" ++ arguments ++ ");")) :
    Conforms board (.declaration (p.stem ++ s)
      (opening ++ p.object board s ++ "(" ++ pin ++ "," ++ pin' ++ ");")) :=
  conforms_arguments p s opening (pin ++ "," ++ pin') hopens (hcloses _)
    (by simp only [String.append_assoc])

/-- The receiving pin is the key, its unit is the object. -/
@[simp] lemma conforms_serial (tx rx : String) :
    Conforms board (.declaration ("serial_" ++ rx)
      ("Serial " ++ unitName board rx .serial ++ "(" ++ tx ++ "," ++ rx ++ ");")) :=
  conforms_pair .serial rx _ tx rx rfl fun _ => ⟨_, rfl⟩

@[simp] lemma conforms_readerLine (unit tx rx : String) :
    Conforms board (.declaration ("pn_hsu_" ++ unit)
      ("Serial " ++ ("pn_hsu_" ++ unit) ++ "(" ++ tx ++ "," ++ rx ++ ",115200);")) :=
  conforms_arguments .readerLine unit _ (tx ++ "," ++ rx ++ ",115200") rfl ⟨_, rfl⟩
    (by simp only [String.append_assoc]; rfl)

@[simp] lemma conforms_reader (unit line : String) :
    Conforms board (.declaration ("pn532_" ++ unit)
      ("PN532Checker " ++ ("pn532_" ++ unit) ++ "(&" ++ line ++ ");")) :=
  conforms_arguments .reader unit _ ("&" ++ line) rfl ⟨_, rfl⟩
    (by
      rw [show "(&" = "(" ++ "&" from rfl]
      simp only [String.append_assoc]
      rfl)

@[simp] lemma conforms_stepper (step dir enable : String) :
    Conforms board (.declaration ("stepper" ++ step)
      ("Stepper stepper" ++ step ++ " = \x7b" ++ step ++ "," ++ dir ++ "," ++ enable ++ "\x7d;")) :=
  .of_text .stepper step "Stepper " (" = \x7b" ++ (step ++ "," ++ dir ++ "," ++ enable) ++ "\x7d;")
    rfl ⟨_, rfl⟩
    (by
      rw [show "Stepper stepper" = "Stepper " ++ "stepper" from rfl]
      simp only [String.append_assoc]
      rfl)

@[simp] lemma conforms_ticker (id : String) :
    Conforms board (.declaration ("tick" ++ id) ("Ticker " ++ ("tick" ++ id) ++ ";")) :=
  .of_text .ticker id "Ticker " ";" rfl rfl rfl

@[simp] lemma conforms_spi (bus mosi miso sck : String) :
    Conforms board (.declaration ("spi_" ++ bus)
      ("SPI " ++ ("spi_" ++ bus) ++ "(" ++ mosi ++ "," ++ miso ++ "," ++ sck ++ ");")) :=
  conforms_arguments .spi bus _ (mosi ++ "," ++ miso ++ "," ++ sck) rfl ⟨_, rfl⟩
    (by simp only [String.append_assoc]; rfl)

@[simp] lemma conforms_radio (mosi arguments : String) :
    Conforms board (.declaration ("nrf24_" ++ mosi)
      ("nRF24L01P " ++ ("nrf24_" ++ mosi) ++ "(" ++ arguments ++ ");")) :=
  conforms_arguments .radio mosi _ arguments rfl ⟨_, rfl⟩ rfl

@[simp] lemma conforms_networkInterface (arguments : String) :
    Conforms board (.declaration "w5500_wiz" ("WIZnetInterface w5500_wiz(" ++ arguments ++ ");")) :=
  conforms_arguments .networkInterface "" _ arguments rfl ⟨_, rfl⟩ rfl

@[simp] lemma conforms_networkSocket :
    Conforms board (.declaration "w5500sock_" "MQTTSocket w5500sock_;") :=
  .of_text .networkSocket "" "MQTTSocket " ";" rfl rfl rfl

@[simp] lemma conforms_networkClient :
    Conforms board (.declaration "w5500client_" "MClient w5500client_(w5500sock_);") :=
  conforms_arguments .networkClient "" "MClient " "w5500sock_" rfl ⟨_, rfl⟩ rfl

lemma topicTable_eq (object names : String) :
    NetworkKind.topicTable object names = "const char* " ++ object ++
      ("[][2] = \x7b" ++ (NetworkKind.topicRows names ++ "\x7bNULL,NULL\x7d") ++ "\x7d;") := by
  have hlast : "\x7bNULL,NULL\x7d\x7d;" = "\x7bNULL,NULL\x7d" ++ "\x7d;" := rfl
  unfold NetworkKind.topicTable
  rw [hlast]
  simp only [String.append_assoc]

/-- Tables of topics have fixed names. -/
lemma conforms_topicTable (p : Peripheral) (hopens : p.Opens "const char* ")
    (hcloses : ∀ rows, p.Closes "" ("[][2] = \x7b" ++ rows ++ "\x7d;"))
    (hobject : p.object board "" = p.stem) (names : String) :
    Conforms board (.declaration p.stem (NetworkKind.topicTable p.stem names)) := by
  refine ⟨p, "", String.append_empty.symm, _, _, hopens,
    hcloses (NetworkKind.topicRows names ++ "\x7bNULL,NULL\x7d"), ?_⟩
  rw [hobject]
  exact topicTable_eq p.stem names

@[simp] lemma conforms_networkSensors (names : String) :
    Conforms board (.declaration "w5500sensors_"
      (NetworkKind.topicTable "w5500sensors_" names)) :=
  conforms_topicTable .networkSensors rfl (fun _ => ⟨_, rfl⟩) rfl names

@[simp] lemma conforms_networkActuators (names : String) :
    Conforms board (.declaration "w5500actuators_"
      (NetworkKind.topicTable "w5500actuators_" names)) :=
  conforms_topicTable .networkActuators rfl (fun _ => ⟨_, rfl⟩) rfl names

@[simp] lemma conforms_voice (arguments : String) :
    Conforms board (.declaration "ld3320_inst"
      ("VoiceRecognition ld3320_inst(" ++ arguments ++ ");")) :=
  conforms_arguments .voice "" _ arguments rfl ⟨_, rfl⟩ rfl

@[simp] lemma conforms_bh1750 (unit sda scl : String) :
    Conforms board (.declaration ("bh1750_" ++ unit)
      ("BH1750 " ++ ("bh1750_" ++ unit) ++ "(" ++ sda ++ "," ++ scl ++ ");")) :=
  conforms_pair .bh1750 unit _ sda scl rfl fun _ => ⟨_, rfl⟩

@[simp] lemma conforms_bmp180 (unit sda scl : String) :
    Conforms board (.declaration ("bmp180_" ++ unit)
      ("BMP180 " ++ ("bmp180_" ++ unit) ++ "(" ++ sda ++ "," ++ scl ++ ");")) :=
  conforms_pair .bmp180 unit _ sda scl rfl fun _ => ⟨_, rfl⟩

@[simp] lemma conforms_level (pin analog : String) :
    Conforms board (.declaration ("analog_" ++ pin)
      ("YL " ++ ("analog_" ++ pin) ++ "(" ++ pin ++ "," ++ analog ++ ");")) :=
  conforms_pair .level pin _ pin analog rfl fun _ => ⟨_, rfl⟩

@[simp] lemma conforms_jy901 (unit tx rx : String) :
    Conforms board (.declaration ("jy901_" ++ unit)
      ("JY901 " ++ ("jy901_" ++ unit) ++ "(" ++ tx ++ "," ++ rx ++ ");")) :=
  conforms_pair .jy901 unit _ tx rx rfl fun _ => ⟨_, rfl⟩

@[simp] lemma conforms_card (mosi arguments : String) :
    Conforms board (.declaration ("sd_" ++ mosi)
      ("SDFileSystem " ++ ("sd_" ++ mosi) ++ "(" ++ arguments ++ ");")) :=
  conforms_arguments .card mosi _ arguments rfl ⟨_, rfl⟩ rfl

@[simp] lemma conforms_file (name : String) :
    Conforms board (.declaration ("file_" ++ name) ("FILE *" ++ name ++ ";")) :=
  .of_text .file name "FILE *" ";" rfl rfl rfl

@[simp] lemma conforms_variable (type : ValueType) (name : String) :
    Conforms board (.declaration ("var_" ++ name) (type.spelling ++ " " ++ name ++ ";")) :=
  .of_text .userVariable name _ ";" ⟨type, rfl⟩ (.inl rfl) rfl

@[simp] lemma conforms_variable_initial (type : ValueType) (name code : String) :
    Conforms board (.declaration ("var_" ++ name)
      (type.spelling ++ " " ++ name ++ " = " ++ code ++ ";")) :=
  .of_text .userVariable name _ (" = " ++ code ++ ";") ⟨type, rfl⟩ (.inr (.inl ⟨_, rfl⟩))
    (by simp only [String.append_assoc]; rfl)

@[simp] lemma conforms_variable_array (type : ValueType) (name length : String) :
    Conforms board (.declaration ("var_" ++ name)
      (type.spelling ++ " " ++ name ++ "[" ++ length ++ "];")) :=
  .of_text .userVariable name _ ("[" ++ length ++ "];") ⟨type, rfl⟩ (.inr (.inr ⟨_, rfl⟩))
    (by simp only [String.append_assoc]; rfl)

end Texts

/-! ### All scripts conform -/

/-- All registrations of a script conform. -/
def Conforming (board : Board) {α : Type} (x : Script α) : Prop :=
  Ensures board x fun own _ => ∀ e ∈ own, Grants (Conforms board) e

section Scripts

variable {board : Board}

lemma emit_conforming_pin (b : Block) (k : PinKind) : Conforming board (k.emit b) := by
  unfold Conforming
  cases k <;>
    simp [PinKind.emit, PinKind.emitWrite, digitalOut, PinKind.emitDigitalRead,
      PinKind.emitAnalogRead, PinKind.emitPwm, PinKind.pwmOut, PinKind.emitPulse,
      PinKind.emitPulseTimeout, PinKind.pulseLevel, PinKind.emitInterrupt, PinKind.emitTone,
      PinKind.emitSilence]

lemma emit_conforming_serial (b : Block) (k : SerialKind) : Conforming board (k.emit b) := by
  unfold Conforming
  cases k <;>
    simp [SerialKind.emit, SerialKind.emitSetup, SerialKind.lineUnit, SerialKind.emitPrint,
      PrintArguments.read, SerialKind.emitAttach, SerialKind.emitContent,
      SerialKind.emitReaderSetup, SerialKind.emitReaderCall]

lemma emit_conforming_motor (b : Block) (k : MotorKind) : Conforming board (k.emit b) := by
  unfold Conforming
  cases k <;>
    simp [MotorKind.emit, MotorKind.emitServoWrite, MotorKind.emitServoRead, MotorKind.servoOut,
      MotorKind.emitStepperSetup, MotorKind.emitStepperRotate]

lemma emit_conforming_time (b : Block) (k : TimeKind) : Conforming board (k.emit b) := by
  unfold Conforming
  cases k <;>
    simp [TimeKind.emit, TimeKind.emitDelay, TimeKind.emitDelayMicros, TimeKind.emitTicker]

lemma emit_conforming_spi (b : Block) (k : SpiKind) : Conforming board (k.emit b) := by
  unfold Conforming
  cases k <;>
    simp [SpiKind.emit, SpiKind.emitSetup, reserveBus, digitalOut, SpiKind.emitTransfer,
      SpiKind.emitTransferReturn]

lemma emit_conforming_radio (b : Block) (k : RadioKind) : Conforming board (k.emit b) := by
  unfold Conforming
  cases k <;> simp [RadioKind.emit, RadioKind.emitSetup, RadioKind.object, reserveBus]

lemma emit_conforming_network (b : Block) (k : NetworkKind) : Conforming board (k.emit b) := by
  unfold Conforming
  cases k <;>
    simp [NetworkKind.emit, NetworkKind.emitSetup, NetworkKind.handlerRegistrations, reserveBus,
      NetworkKind.emitPublish, NetworkKind.emitCommand]

lemma emit_conforming_voice (b : Block) (k : VoiceKind) : Conforming board (k.emit b) := by
  unfold Conforming
  cases k <;> simp [VoiceKind.emit, VoiceKind.emitSetup, reserveBus]

lemma emit_conforming_sensor (b : Block) (k : SensorKind) : Conforming board (k.emit b) := by
  unfold Conforming
  cases k <;>
    simp [SensorKind.emit, SensorKind.emitCall, SensorKind.emitI2cSetup, SensorKind.emitPinSetup,
      SensorKind.emitAnalogSetup, SensorKind.emitReadable, SensorKind.emitReset]

lemma emit_conforming_imu (b : Block) (k : ImuKind) : Conforming board (k.emit b) := by
  unfold Conforming
  cases k <;> simp [ImuKind.emit, ImuKind.emitSetup, ImuKind.emitGet]

lemma emit_conforming_file (b : Block) (k : FileKind) : Conforming board (k.emit b) := by
  unfold Conforming
  cases k <;>
    simp [FileKind.emit, FileKind.handle, FileKind.emitCard, FileKind.emitOpen, FileKind.emitPrint,
      PrintArguments.read, FileKind.emitScan, FileKind.emitClose, reserveBus]

lemma emit_conforming_gcode (k : GcodeKind) : Conforming board k.emit := by
  unfold Conforming
  cases k <;> simp [GcodeKind.emit, GcodeKind.emitCallback, GcodeKind.emitParse]

lemma emitDeclare_conforming (b : Block) :
    Conforming board (VariableKind.emitDeclare b) := by
  unfold Conforming
  simp only [VariableKind.emitDeclare, VariableKind.includeFor, ensures_bind, ensures_ite]
  constructor <;> intro _ <;> simp <;> intro initial <;> cases initial <;> simp

lemma emitCast_conforming (g : Graph) (b : Block) :
    Conforming board (VariableKind.emitCast g b) := by
  unfold Conforming VariableKind.emitCast VariableKind.castSource
  cases (b.values.get? "VARIABLE_SETTYPE_INPUT").bind g.get? with
  | none => simp
  | some child =>
    simp
    intro code
    cases code <;> simp

lemma emit_conforming_variable (g : Graph) (b : Block) (k : VariableKind) :
    Conforming board (k.emit g b) := by
  cases k with
  | declare => exact emitDeclare_conforming b
  | declareArray =>
    simp [Conforming, VariableKind.emit, VariableKind.emitDeclareArray, VariableKind.includeFor]
  | cast => exact emitCast_conforming g b
  | get => simp [Conforming, VariableKind.emit]
  | set => simp [Conforming, VariableKind.emit, VariableKind.emitSet]

lemma emitBranch_conforming (b : Block) :
    Conforming board (LanguageKind.emitBranch b) := by
  have hcondition : ∀ n ∈ LanguageKind.branches b,
      Conforming board (LanguageKind.emitCondition n) := by
    intro n _
    simp [Conforming, LanguageKind.emitCondition]
  unfold Conforming LanguageKind.emitBranch
  rw [ensures_bind]
  refine (ensures_mapM hcondition).mono fun own conditions hown => ?_
  cases helse : b.statements.contains "ELSE" <;> simpa [LanguageKind.emitElse, helse] using hown

lemma emit_conforming_language (b : Block) (k : LanguageKind) : Conforming board (k.emit b) := by
  cases k with
  | branch => exact emitBranch_conforming b
  | operation =>
    simp [Conforming, LanguageKind.emit, LanguageKind.emitOperation]
    intro left right
    cases left <;> cases right <;> simp [Operator.apply]
  | frame | number | text | boolean | arithmetic | compare | negate | repetition =>
    simp [Conforming, LanguageKind.emit, LanguageKind.emitNumber, LanguageKind.emitBinary,
      Operator.apply, LanguageKind.emitArithmetic, LanguageKind.emitNegate,
      LanguageKind.emitRepetition]

theorem emit_conforming (g : Graph) (b : Block) (k : Kind) :
    Conforming board (k.emit g b) := by
  cases k with
  | language k => exact emit_conforming_language b k
  | pin k => exact emit_conforming_pin b k
  | serial k => exact emit_conforming_serial b k
  | motor k => exact emit_conforming_motor b k
  | time k => exact emit_conforming_time b k
  | spi k => exact emit_conforming_spi b k
  | radio k => exact emit_conforming_radio b k
  | network k => exact emit_conforming_network b k
  | voice k => exact emit_conforming_voice b k
  | sensor k => exact emit_conforming_sensor b k
  | imu k => exact emit_conforming_imu b k
  | var k => exact emit_conforming_variable g b k
  | file k => exact emit_conforming_file b k
  | gcode k => exact emit_conforming_gcode k

end Scripts

/-! ### Final sections -/

lemma conforms_lax (board : Board) : Lax (Grants (Conforms board)) :=
  ⟨fun _ _ => trivial, fun _ => trivial⟩

/-- What is registered when the whole graph is emitted. -/
def finalRegistry (g : Graph) (board : Board) (indent : String) : Registry :=
  (g.emitBodies (g.emitter board indent [])).effects.foldl registryStep {}

lemma sections_program (g : Graph) (board : Board) (options : Options) :
    (Generator.new g board options).program.sections =
      (finalRegistry g board options.indent).sections := by
  change (Context.applyAll board _ _).registry.sections = _
  rw [registry_applyAll]
  rfl

section Final

variable {g : Graph} {board : Board} {indent : String}

theorem finalRegistry_holds : Holds (Conforms board) (finalRegistry g board indent) :=
  holds_empty.foldl ((conforms_lax board).emitBodies fun k b => emit_conforming g b k)

/-- An object that some script declares is declared in the end, if not by that script then by one
that declares the same object. -/
theorem exists_declaration {p : Peripheral} {s text : String}
    (h : .register (.declaration (p.stem ++ s) text) ∈
      (g.emitBodies (g.emitter board indent [])).effects) :
    ∃ text ∈ (finalRegistry g board indent).sections.declarations, p.Declares board s text := by
  have hregistered : ((finalRegistry g board indent).declarations.get? (p.stem ++ s)).isSome :=
    registered_of_mem h {}
  obtain ⟨last, hlast⟩ := Option.isSome_iff_exists.mp hregistered
  obtain ⟨q, t, hkey, hdeclares⟩ :=
    finalRegistry_holds.declarations _ (Keyed.mem_entries_of_get? hlast)
  obtain ⟨rfl, rfl⟩ := Peripheral.key_injective hkey
  exact ⟨last, Keyed.mem_values_of_get? hlast, hdeclares⟩

theorem exists_function {name text : String}
    (h : .register (.function name text) ∈ (g.emitBodies (g.emitter board indent [])).effects) :
    ∃ returns params body,
      (finalRegistry g board indent).functions.get? name =
        some (Code.functionText returns name params body) := by
  have hregistered : ((finalRegistry g board indent).functions.get? name).isSome :=
    registered_of_mem h {}
  obtain ⟨last, hlast⟩ := Option.isSome_iff_exists.mp hregistered
  obtain ⟨returns, params, body, htext⟩ :=
    finalRegistry_holds.functions _ (Keyed.mem_entries_of_get? hlast)
  exact ⟨returns, params, body, hlast.trans (congrArg some htext)⟩

end Final

end MbedBlocks.Proofs
