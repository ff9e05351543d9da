import MbedBlocks.Emit.Device
import MbedBlocks.Kind.Basic
import MbedBlocks.Text.Lines
import MbedBlocks.Text.Word

/-!
# Emission for attached modules

SPI buses with the radio, network and voice modules on them, sensors, files and the G-code
interpreter.
-/

namespace MbedBlocks

open Board (BusPins)
open Code (Fragment)

/-- Reserves the pins of a bus. -/
def reserveBus (pins : BusPins) (purpose : String) : Script Unit := do
  Script.reserve pins.mosi .spi (purpose ++ " MOSI")
  Script.reserve pins.miso .spi (purpose ++ " MISO")
  Script.reserve pins.sck .spi (purpose ++ " SCK")

/-- The bus pins that a module's own fields name. -/
def fieldPins (b : Block) : BusPins :=
  { mosi := b.text "MOSI", miso := b.text "MISO", sck := b.text "SCK" }

namespace SpiKind

/-- The frequency is entered in units of 100 kHz. -/
def emitSetup (b : Block) : Script Fragment := do
  let bus := b.text "SPI_ID"
  let frequency ← Script.valueOr "frequency" .multiplicative "1"
  let pins ← Script.bus bus (b.text "SPI1_ID")
  if pins.mosi ≠ "NC" then
    reserveBus pins bus
  Script.reserve (b.text "PIN") .output "SPI chip select"
  let name := "spi_" ++ bus
  Script.declare name
    ("SPI " ++ name ++ "(" ++ pins.mosi ++ "," ++ pins.miso ++ "," ++ pins.sck ++ ");")
  let select ← digitalOut (b.text "PIN")
  Script.statement
    (name ++ ".frequency(" ++ Code.multiplyLiteral frequency 100000 ++ ");\n" ++
      name ++ ".format(8," ++ b.textOr "SPI_MODE" "0" ++ ");\n" ++
      select ++ ".write(0);\n")

def emitTransfer (b : Block) : Script Fragment := do
  let data ← Script.argumentOr "SPI_DATA" "0"
  Script.statement ("spi_" ++ b.text "SPI_ID" ++ ".write(" ++ data ++ ");\n")

/-- Body of the function that selects a slave around one transfer. -/
def transferBody (select bus data : String) : String :=
  "  int spiReturn = 0;\n" ++
    "  " ++ select ++ ".write(1);\n" ++
    "  spiReturn = " ++ bus ++ ".write(" ++ data ++ ");\n" ++
    "  " ++ select ++ ".write(0);\n" ++
    "  return spiReturn;\n"

def emitTransferReturn (b : Block) : Script Fragment := do
  let bus := "spi_" ++ b.text "SPI_ID"
  let data ← Script.argumentOr "SPI_DATA" "0"
  let slave := b.textOr "SPI_SS" "none"
  if slave = "none" then
    Script.call (bus ++ ".write(" ++ data ++ ")")
  else
    Script.reserve slave .output "SPI slave select"
    let select ← digitalOut slave
    let function := "spiReturnSlave" ++ slave
    Script.addFunction function
      (Code.functionText "int" function [] (transferBody select bus data))
    Script.call (function ++ "()")

def emit (b : Block) : SpiKind → Script Fragment
  | setup => emitSetup b
  | transfer => emitTransfer b
  | transferReturn => emitTransferReturn b

end SpiKind

namespace RadioKind

def object (b : Block) : String := "nrf24_" ++ b.text "MOSI"

def emitSetup (b : Block) : Script Fragment := do
  let pins := fieldPins b
  let cs := b.text "CS"
  let ce := b.text "CE"
  let irq := b.text "IRQ"
  reserveBus pins "nRF24L01"
  Script.reserve cs .output "nRF24L01 CSN"
  Script.reserve ce .output "nRF24L01 CE"
  Script.reserve irq .interrupt "nRF24L01 IRQ"
  let name := object b
  Script.addInclude "nRF24L01P" "#include \"nRF24L01P.h\""
  Script.declare name
    ("nRF24L01P " ++ name ++ "(" ++
      ",".intercalate [pins.mosi, pins.miso, pins.sck, cs, ce, irq] ++ ");")
  let address := b.textOr "ADDR" "0"
  Script.statement
    (name ++ ".setRxAddress(" ++ address ++ "ull);\n" ++
      name ++ ".setTxAddress(" ++ address ++ "ull);\n" ++
      name ++ ".NRF24L01_Init(" ++ b.textOr "RFCH" "0" ++ ", " ++ b.textOr "TR" "0" ++ ");\n" ++
      name ++ ".nIRQ_.mode(PullDown);\n" ++
      name ++ ".nIRQ_.rise(&nRF_Analysis);\n")

def emit (b : Block) : RadioKind → Script Fragment
  | setup => emitSetup b
  | irq => Script.statement (object b ++ ".NRF24L01_IRQ();\n")
  | check => Script.statement (object b ++ ".NRF24L01_Check();\n")
  | readable => Script.call (object b ++ ".readable()")
  | checksum => Script.call (object b ++ ".Get_Checksum(" ++ b.text "BUF" ++ ")")
  | writeLength =>
    Script.statement
      (object b ++ ".NRF_Send_TX(" ++ b.text "BUF" ++ "," ++ b.text "LEN" ++ ");\n")
  | connect => Script.statement (object b ++ ".Nrf_Connect(" ++ b.text "BUF" ++ ");\n")

end RadioKind

namespace NetworkKind

/-- The function that the network library calls for every command it receives. -/
def handler : String := "W5500_on_command"

/-- The registrations that define the command handler. -/
def handlerRegistrations (body : String) : List Registration :=
  let text := ValueType.text.spelling
  [.header "string" "#include <string>",
    .function handler (Code.functionText "void" handler [text ++ " topic", text ++ " value"] body)]

/-- Table rows for the names of a list separated by commas. -/
def topicRows (names : String) : String :=
  String.join
    ((((Text.splitOn ',' names.toList).map fun part => Text.trim (String.ofList part)).filter
      (· != "")).map fun name => "\x7b" ++ Code.stringLiteral name ++ ",\"\"\x7d,")

def topicTable (object names : String) : String :=
  "const char* " ++ object ++ "[][2] = \x7b" ++ topicRows names ++ "\x7bNULL,NULL\x7d\x7d;"

/-- A string literal, or a null pointer for an empty field. -/
def optionalLiteral (b : String) : String :=
  if b = "" then "NULL" else Code.stringLiteral b

/-- The library wants a command handler even if no block defines one. -/
def emitSetup (b : Block) : Script Fragment := do
  let pins := fieldPins b
  let cs := b.text "CS"
  let reset := b.text "RESET"
  reserveBus pins "W5500"
  Script.reserve cs .output "W5500 CS"
  Script.reserve reset .output "W5500 RESET"
  Script.addInclude "w5500" "#include \"networking.h\""
  Script.declare "w5500_wiz"
    ("WIZnetInterface w5500_wiz(" ++
      ",".intercalate [pins.mosi, pins.miso, pins.sck, cs, reset] ++ ");")
  Script.declare "w5500sock_" "MQTTSocket w5500sock_;"
  Script.declare "w5500client_" "MClient w5500client_(w5500sock_);"
  Script.declare "w5500sensors_" (topicTable "w5500sensors_" (b.text "sensors"))
  Script.declare "w5500actuators_" (topicTable "w5500actuators_" (b.text "actuators"))
  Script.provide handler (handlerRegistrations "")
  Script.statement
    ("networking_init(w5500_wiz, w5500sock_, w5500client_, " ++
      ", ".intercalate
        [Code.stringLiteral (Text.trim (b.text "host")),
          Code.stringLiteral (Text.trim (b.text "node")),
          "w5500sensors_", "w5500actuators_", handler,
          optionalLiteral (b.text "mqttUser"),
          optionalLiteral (b.text "mqttPasswd")] ++ ");\n")

def emitPublish : Script Fragment := do
  let topic ← Script.argumentOr "topic" "\"\""
  let payload ← Script.argumentOr "value" "\"\""
  Script.statement ("publish_value(w5500client_, " ++ topic ++ ", " ++ payload ++ ");\n")

/-- The chain becomes the command handler; nothing stands in place. -/
def emitCommand : Script Fragment := do
  let body ← Script.body "function_body"
  (handlerRegistrations body).forM Script.register
  Script.statement ""

def emit (b : Block) : NetworkKind → Script Fragment
  | setup => emitSetup b
  | yield => Script.statement ("w5500client_.yield(" ++ b.textOr "timeout" "1000" ++ ");\n")
  | publish => emitPublish
  | command => emitCommand

end NetworkKind

namespace VoiceKind

def emitSetup (b : Block) : Script Fragment := do
  let pins := fieldPins b
  let cs := b.text "CS"
  let reset := b.text "RESET"
  reserveBus pins "LD3320"
  Script.reserve cs .output "LD3320 NSS"
  Script.reserve reset .output "LD3320 RST"
  Script.addInclude "ld3320" "#include \"ld3320.h\""
  Script.declare "ld3320_inst"
    ("VoiceRecognition ld3320_inst(" ++
      ",".intercalate [cs, pins.miso, pins.mosi, pins.sck, reset] ++ ");")
  Script.statement "ld3320_inst.init();\n"

def emit (b : Block) : VoiceKind → Script Fragment
  | setup => emitSetup b
  | start => Script.statement "ld3320_inst.start();\n"
  | add =>
    Script.statement
      ("ld3320_inst.addCommand(" ++ Code.stringLiteral (b.text "words") ++ ", " ++
        b.textOr "id" "0" ++ ");\n")
  | read => Script.call "ld3320_inst.read()"

end VoiceKind

namespace SensorKind

/-- A call on the object that a field names. -/
def emitCall (b : Block) (stem field method : String) : Script Fragment :=
  Script.call (stem ++ "_" ++ b.text field ++ "." ++ method)

/-- An I2C sensor is named after the bus of its data pin. -/
def emitI2cSetup (b : Block) (type stem : String) : Script Fragment := do
  let sda := b.text "I2C_SDA"
  let scl := b.text "I2C_SCL"
  Script.reserve sda .i2c (type ++ " SDA")
  Script.reserve scl .i2c (type ++ " SCL")
  let unit ← Script.unit sda .i2c
  let name := stem ++ "_" ++ unit
  Script.declare name (type ++ " " ++ name ++ "(" ++ sda ++ "," ++ scl ++ ");")
  Script.statement ""

def emitPinSetup (b : Block) (type stem : String) : Script Fragment := do
  let pin := b.text "IO"
  Script.reserve pin .input type
  let name := stem ++ "_" ++ pin
  Script.declare name (type ++ " " ++ name ++ "(" ++ pin ++ ");")
  Script.statement ""

/-- A level sensor has a digital output and an analog one. -/
def emitAnalogSetup (b : Block) : Script Fragment := do
  let pin := b.text "IO"
  let analog := b.text "AIO"
  Script.reserve pin .input "YL digital output"
  Script.reserve analog .input "YL analog output"
  let name := "analog_" ++ pin
  Script.declare name ("YL " ++ name ++ "(" ++ pin ++ "," ++ analog ++ ");")
  Script.statement ""

def emitReadable (b : Block) (stem : String) : Script Fragment :=
  Script.expression (stem ++ "_" ++ b.text "IO" ++ "==true") .equality

def emitReset (b : Block) (stem : String) : Script Fragment :=
  Script.statement (stem ++ "_" ++ b.text "IO" ++ ".reset();\n")

def emit (b : Block) : SensorKind → Script Fragment
  | bh1750Setup => emitI2cSetup b "BH1750" "bh1750"
  | bh1750Read => emitCall b "bh1750" "I2C_Pins" "getlightdata()"
  | bmp180Setup => emitI2cSetup b "BMP180" "bmp180"
  | bmp180Temperature => emitCall b "bmp180" "I2C_Pins" "BMP180GetTemperature()"
  | bmp180Pressure => emitCall b "bmp180" "I2C_Pins" "BMP180GetPressure()"
  | dht11Setup => emitPinSetup b "dht11" "dht11"
  | dht11Temperature => emitCall b "dht11" "IO" "gettemperature()"
  | dht11Humidity => emitCall b "dht11" "IO" "gethumidity()"
  | dht11Readable => emitCall b "dht11" "IO" "getdata()"
  | ds18b20Setup => emitPinSetup b "DS18B20" "ds18B20"
  | ds18b20Temperature => emitCall b "ds18B20" "IO" "gettemperature()"
  | ds18b20Readable => emitCall b "ds18B20" "IO" "getdata()"
  | sr501Setup => emitPinSetup b "sr501" "sr501"
  | sr501Output => emitCall b "sr501" "IO" "read()"
  | sr501Readable => emitReadable b "sr501"
  | sr501Reset => emitReset b "sr501"
  | analogSetup => emitAnalogSetup b
  | analogOutput => emitCall b "analog" "IO" "read()"
  | analogReadable => emitReadable b "analog"
  | analogReset => emitReset b "analog"

end SensorKind

namespace ImuKind

def object (b : Block) : String := "jy901_" ++ b.text "JY901_NAME"

def emitSetup (b : Block) : Script Fragment := do
  let tx := b.text "TX"
  let rx := b.text "RX"
  Script.reserve tx .serial "JY901 TX"
  Script.reserve rx .serial "JY901 RX"
  let unit ← Script.unit tx .serial
  let name := "jy901_" ++ unit
  Script.declare name ("JY901 " ++ name ++ "(" ++ tx ++ "," ++ rx ++ ");")
  Script.statement ""

/-- The call fills three variables of the program. -/
def emitGet (b : Block) (method : String) : Script Fragment := do
  let first ← Script.argumentOr "ARG1" "invalid1"
  let second ← Script.argumentOr "ARG2" "invalid2"
  let third ← Script.argumentOr "ARG3" "invalid3"
  Script.statement
    (object b ++ "." ++ method ++ "(" ++ first ++ "," ++ second ++ "," ++ third ++ ");\n")

def emit (b : Block) : ImuKind → Script Fragment
  | setup => emitSetup b
  | receive => Script.statement (object b ++ ".receiveData();\n")
  | acceleration => emitGet b "getAcc"
  | gyration => emitGet b "getGyo"
  | magnetism => emitGet b "getMag"
  | attitude => emitGet b "getAttitude"

end ImuKind

namespace FileKind

/-- The file that a field names, declared as a global handle. -/
def handle (b : Block) : Script String := do
  let file := b.textOr "FILE" "fp"
  Script.declare ("file_" ++ file) ("FILE *" ++ file ++ ";")
  return file

def emitCard (b : Block) : Script Fragment := do
  let pins := fieldPins b
  let cs := b.text "CS"
  reserveBus pins "SD"
  Script.reserve cs .output "SD CS"
  let name := "sd_" ++ pins.mosi
  Script.addInclude "SDFileSystem" "#include \"SDFileSystem.h\""
  Script.declare name
    ("SDFileSystem " ++ name ++ "(" ++
      ",".intercalate [pins.mosi, pins.miso, pins.sck, cs, "\"sd\""] ++ ");")
  Script.statement ""

def emitOpen (b : Block) : Script Fragment := do
  let file ← handle b
  let path ← Script.argumentOr "PATH" "\"\""
  Script.statement
    (file ++ " = fopen(" ++ path ++ ", " ++ Code.stringLiteral (b.textOr "MODE" "r") ++ ");\n")

def emitPrint (b : Block) : Script Fragment := do
  let file ← handle b
  let args ← PrintArguments.read b
  Script.statement (args.call "fprintf" [file])

/-- What is scanned is passed by address. -/
def emitScan (b : Block) : Script Fragment := do
  let file ← handle b
  let content ← Script.argumentOr "CONTENT" "0"
  let extra ← Script.value "CONTENT_STR" .argument
  let args := file :: content :: (extra.map Text.addressOfWords).toList
  Script.statement ("fscanf(" ++ ",".intercalate args ++ ");\n")

def emitClose (b : Block) : Script Fragment := do
  let file ← handle b
  Script.statement ("fclose(" ++ file ++ ");\n")

def emit (b : Block) : FileKind → Script Fragment
  | card => emitCard b
  | openFile => emitOpen b
  | print => emitPrint b
  | scan => emitScan b
  | closeFile => emitClose b

end FileKind

namespace GcodeKind

/-- The interpreter calls back into functions with fixed names and parameters. -/
def emitCallback (name : String) (params : List String) : Script Fragment := do
  Script.callback name params "function_body"
  Script.statement ""

def emitParse : Script Fragment := do
  let line ← Script.argumentOr "GCODE" "\"\""
  Script.statement ("GCode_DoNext(" ++ line ++ ");\n")

def emit : GcodeKind → Script Fragment
  | start => Script.statement "GCode_Init();\n"
  | parse => emitParse
  | home => emitCallback "Move_Home" ["int selected_axes"]
  | move => emitCallback "Move_AbsoluteMove" ["int xyza[4]", "int feedrate"]
  | setPosition => emitCallback "Move_SetCurrentPos" ["int xyza[4]"]

end GcodeKind

end MbedBlocks
