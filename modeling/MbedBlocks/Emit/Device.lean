import MbedBlocks.Emit.Print
import MbedBlocks.Kind.Basic

/-!
# Emission for pins, serial lines, motors and time

An object that works on a pin is named after the pin, so all blocks that use the pin in one role
share one declaration.
-/

namespace MbedBlocks

open Code (Fragment)

/-- The output object of a pin. -/
def digitalOut (pin : String) : Script String := do
  let name := "myDigitalOut" ++ pin
  Script.declare name ("DigitalOut " ++ name ++ "(" ++ pin ++ ");")
  return name

namespace PinKind

/-- The PWM object of the pin in a field. -/
def pwmOut (b : Block) (field purpose : String) : Script String := do
  let pin := b.text field
  Script.reserve pin .pwm purpose
  let name := "myPwm" ++ pin
  Script.declare ("pwm_" ++ pin) ("PwmOut " ++ name ++ "(" ++ pin ++ ");")
  return name

def emitWrite (b : Block) (field purpose : String) : Script Fragment := do
  let pin := b.text field
  let state ← Script.argumentOr "STATE" "LOW"
  Script.reserve pin .output purpose
  let name ← digitalOut pin
  Script.statement (name ++ ".write(" ++ state ++ ");\n")

def emitDigitalRead (b : Block) : Script Fragment := do
  let pin := b.text "PIN"
  Script.reserve pin .input "Digital Read"
  let name := "myDigitalIn" ++ pin
  Script.declare name ("DigitalIn " ++ name ++ "(" ++ pin ++ ");")
  Script.call (name ++ ".read()")

def emitAnalogRead (b : Block) : Script Fragment := do
  let pin := b.text "PIN"
  Script.reserve pin .input "Analogue Read"
  let name := "myIO" ++ pin
  Script.declare ("io_" ++ pin) ("AnalogIn " ++ name ++ "(" ++ pin ++ ");")
  Script.call (name ++ ".read()")

/-- The units select the calls; the numbers stay as they are. -/
def emitPwm (b : Block) : Script Fragment := do
  let period ← Script.argumentOr "PWM_PERIOD" "1"
  let width ← Script.argumentOr "PWM_WIDTH" "1"
  let name ← pwmOut b "PWM_PIN" "PWM Write"
  Script.statement
    (name ++ ".period_" ++ b.textOr "UNIT_PERIOD" "ms" ++ "(" ++ period ++ ");\n" ++
      name ++ ".pulsewidth_" ++ b.textOr "UNIT_WIDTH" "ms" ++ "(" ++ width ++ ");\n")

/-- The level to wait for, after the pin is reserved and set to input. -/
def pulseLevel (b : Block) : Script String := do
  let pin := b.text "PULSEPIN"
  let level ← Script.argumentOr "PULSETYPE" "HIGH"
  Script.reserve pin .input "Pulse Pin"
  Script.addSetup ("io_" ++ pin) ("pinMode(" ++ pin ++ ", INPUT);") false
  return level

def emitPulse (b : Block) : Script Fragment := do
  let level ← pulseLevel b
  Script.call ("pulseIn(" ++ b.text "PULSEPIN" ++ ", " ++ level ++ ")")

def emitPulseTimeout (b : Block) : Script Fragment := do
  let level ← pulseLevel b
  let timeout ← Script.argumentOr "TIMEOUT" "0"
  Script.call ("pulseIn(" ++ b.text "PULSEPIN" ++ ", " ++ level ++ ", " ++ timeout ++ ")")

def emitInterrupt (b : Block) : Script Fragment := do
  let pin := b.text "Pin"
  let name := "intr" ++ pin
  Script.reserve pin .interrupt "Interrupt"
  Script.declare name ("InterruptIn " ++ name ++ "(" ++ pin ++ ");")
  Script.addSetup (name ++ "_mode") (name ++ ".mode(" ++ b.textOr "Pull" "PullNone" ++ ");") true
  let function := name ++ "_interrupt_fun"
  Script.callback function [] "function_body"
  Script.statement (name ++ "." ++ b.textOr "Type" "rise" ++ "(&" ++ function ++ ");\n")

def emitTone (b : Block) : Script Fragment := do
  let frequency ← Script.valueOr "FREQUENCY" (Code.Level.multiplicative.tighter) "440"
  let name ← pwmOut b "TONEPIN" "Tone"
  Script.statement
    (name ++ ".period(1.0 / " ++ frequency ++ ");\n" ++ name ++ ".write(0.5f);\n")

def emitSilence (b : Block) : Script Fragment := do
  let name ← pwmOut b "TONEPIN" "Tone"
  Script.statement (name ++ ".write(0.0f);\n")

def emit (b : Block) : PinKind → Script Fragment
  | digitalWrite => emitWrite b "PIN" "Digital Write"
  | digitalRead => emitDigitalRead b
  | builtinLed => emitWrite b "BUILT_IN_LED" "Set LED"
  | analogRead => emitAnalogRead b
  | highLow => Script.expression (b.textOr "STATE" "LOW") .atomic
  | pwm => emitPwm b
  | pulse => emitPulse b
  | pulseTimeout => emitPulseTimeout b
  | interrupt => emitInterrupt b
  | interruptPriority =>
    Script.statement
      ("NVIC_SetPriority(" ++ b.text "IRQ" ++ ", " ++ b.textOr "PRIO" "1" ++ ");\n")
  | tone => emitTone b
  | silence => emitSilence b

end PinKind

namespace SerialKind

/-- Reserves both pins of a serial line; the receiving pin tells the unit. -/
def lineUnit (b : Block) (purpose : String) : Script String := do
  Script.reserve (b.text "SERIAL_ID") .serial (purpose ++ " RX")
  Script.reserve (b.text "SERIAL_ID_TX") .serial (purpose ++ " TX")
  Script.unit (b.text "SERIAL_ID") .serial

def emitSetup (b : Block) : Script Fragment := do
  let unit ← lineUnit b "Serial"
  let rx := b.text "SERIAL_ID"
  let tx := b.text "SERIAL_ID_TX"
  Script.declare ("serial_" ++ rx) ("Serial " ++ unit ++ "(" ++ tx ++ "," ++ rx ++ ");")
  Script.statement (unit ++ ".baud(" ++ b.textOr "SPEED" "9600" ++ ");\n")

def emitPrint (b : Block) : Script Fragment := do
  let args ← PrintArguments.read b
  Script.statement (args.call (b.text "SERIAL_Pins" ++ ".printf") [])

def emitAttach (b : Block) : Script Fragment := do
  let unit := b.text "SERIAL_Pins"
  let function := unit ++ "_interrupt_fun"
  Script.callback function [] "function_body"
  Script.statement (unit ++ ".attach(&" ++ function ++ ");\n")

/-- A format and its arguments as one list, to be spliced into a printing call. -/
def emitContent : Script Fragment := do
  let format ← Script.argumentOr "format_content" ""
  let join ← Script.value "join_content" .argument
  let text :=
    match join with
    | some join => if format = "" then format else format ++ "," ++ join
    | none => format
  Script.expression text .atomic

def emitReaderSetup (b : Block) : Script Fragment := do
  let unit ← lineUnit b "PN532"
  let line := "pn_hsu_" ++ unit
  let reader := "pn532_" ++ unit
  Script.declare line
    ("Serial " ++ line ++ "(" ++ b.text "SERIAL_ID_TX" ++ "," ++ b.text "SERIAL_ID" ++ ",115200);")
  Script.declare reader ("PN532Checker " ++ reader ++ "(&" ++ line ++ ");")
  Script.statement ""

def emitReaderCall (b : Block) (method : String) : Script Fragment :=
  Script.call ("pn532_" ++ b.text "SERIAL_Pins" ++ "." ++ method)

def emit (b : Block) : SerialKind → Script Fragment
  | setup => emitSetup b
  | print => emitPrint b
  | getChar => Script.call (b.text "SERIAL_Pins" ++ ".getc()")
  | attach => emitAttach b
  | content => emitContent
  | readerSetup => emitReaderSetup b
  | waitCard => emitReaderCall b ("start_check(" ++ b.textOr "TIMEOUT" "100" ++ ")")
  | readUser => emitReaderCall b "get_userid()"
  | readPassword => emitReaderCall b "get_passwd()"

end SerialKind

namespace MotorKind

/-- The servo object of a pin, shared by reading and writing. -/
def servoOut (b : Block) (purpose : String) : Script String := do
  let pin := b.text "SERVO_PIN"
  Script.reserve pin .servo purpose
  let name := "myServo" ++ pin
  Script.declare ("servo_" ++ pin) ("PwmOut " ++ name ++ "(" ++ pin ++ ");")
  return name

def emitServoWrite (b : Block) : Script Fragment := do
  let width ← Script.argumentOr "SERVO_PULSEWIDTH" "1"
  let name ← servoOut b "Servo Write"
  Script.statement
    (name ++ ".period_ms(20);\n" ++
      name ++ ".pulsewidth_" ++ b.textOr "TimeDomain" "us" ++ "(" ++ width ++ ");\n")

def emitServoRead (b : Block) : Script Fragment := do
  let name ← servoOut b "Servo Read"
  Script.call (name ++ ".read()")

def emitStepperSetup (b : Block) : Script Fragment := do
  let step := b.text "STEP_Pin"
  let dir := b.text "DIR_Pin"
  let enable := b.text "EN_Pin"
  Script.reserve step .stepper "Stepper STEP"
  Script.reserve dir .stepper "Stepper DIR"
  Script.reserve enable .stepper "Stepper EN"
  Script.addInclude "Stepper" "#include <stepper.h>"
  Script.declare ("stepper" ++ step)
    ("Stepper stepper" ++ step ++ " = \x7b" ++ step ++ "," ++ dir ++ "," ++ enable ++ "\x7d;")
  Script.statement ""

def emitStepperRotate (b : Block) : Script Fragment := do
  let period ← Script.argumentOr "PERIOD" "1"
  let steps ← Script.argumentOr "STEP" "1"
  let method := if b.text "UNIT_PERIOD" = "us" then "rotate_us" else "rotate"
  Script.statement
    ("stepper" ++ b.text "STEP_Pin" ++ "." ++ method ++ "(" ++ period ++ ", " ++ steps ++ ");\n")

def emit (b : Block) : MotorKind → Script Fragment
  | servoWrite => emitServoWrite b
  | servoRead => emitServoRead b
  | stepperSetup => emitStepperSetup b
  | stepperRotate => emitStepperRotate b
  | stepperWait => Script.statement ("while(stepper" ++ b.text "STEP_Pin" ++ ".remain);\n")

end MotorKind

namespace TimeKind

/-- The block counts milliseconds, the call takes seconds. -/
def emitDelay : Script Fragment := do
  let millis ← Script.valueOr "DELAY_TIME_MILI" .multiplicative "0"
  Script.statement ("wait(" ++ Code.divideLiteral millis 1000 ++ ");\n")

def emitDelayMicros : Script Fragment := do
  let micros ← Script.argumentOr "DELAY_TIME_MICRO" "0"
  Script.statement ("delayMicroseconds(" ++ micros ++ ");\n")

/-- The ticker is named after its block. -/
def emitTicker (b : Block) : Script Fragment := do
  let ticker := "tick" ++ Code.identifierSuffix b.id
  let function := ticker ++ "_handle"
  Script.callback function [] "function_body"
  Script.declare ticker ("Ticker " ++ ticker ++ ";")
  Script.statement
    (ticker ++ ".attach(&" ++ function ++ "," ++ b.textOr "ticks" "1" ++ ");\n")

def emit (b : Block) : TimeKind → Script Fragment
  | delay => emitDelay
  | delayMicros => emitDelayMicros
  | millis => Script.call "millis()"
  | micros => Script.call "micros()"
  | halt => Script.statement "while(true);\n"
  | ticker => emitTicker b

end TimeKind

end MbedBlocks
