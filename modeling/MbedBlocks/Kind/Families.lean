import MbedBlocks.Block
import MbedBlocks.Kind.Basic

/-!
# Families of scripts

A block names its kind by a text, which may be anything. Each family of scripts knows the texts that
it answers to, and the families are asked in turn.
-/

namespace MbedBlocks

/-- The name of the block that holds the setup and loop chains. -/
@[match_pattern]
def framingName : String := "mbed_functions"

namespace Kind

def inLanguage? : String → Option Kind
  | framingName => some (.language .frame)
  | "math_number" => some (.language .number)
  | "text" => some (.language .text)
  | "logic_boolean" => some (.language .boolean)
  | "math_arithmetic" => some (.language .arithmetic)
  | "logic_compare" => some (.language .compare)
  | "logic_operation" => some (.language .operation)
  | "logic_negate" => some (.language .negate)
  | "controls_if" => some (.language .branch)
  | "controls_whileUntil" => some (.language .repetition)
  | _ => none

def inPins? : String → Option Kind
  | "io_digitalwrite" => some (.pin .digitalWrite)
  | "io_builtin_led" => some (.pin .builtinLed)
  | "io_digitalread" => some (.pin .digitalRead)
  | "io_analogread" => some (.pin .analogRead)
  | "io_highlow" => some (.pin .highLow)
  | "io_pwm_set" => some (.pin .pwm)
  | "io_pulsein" => some (.pin .pulse)
  | "io_pulsetimeout" => some (.pin .pulseTimeout)
  | "io_interrupt" => some (.pin .interrupt)
  | "set_interrupt_prio" => some (.pin .interruptPriority)
  | "io_tone" => some (.pin .tone)
  | "io_notone" => some (.pin .silence)
  | _ => none

def inSerial? : String → Option Kind
  | "serial_setup" => some (.serial .setup)
  | "serial_print" => some (.serial .print)
  | "serial_getc" => some (.serial .getChar)
  | "serial_attach" => some (.serial .attach)
  | "print_content" => some (.serial .content)
  | "pn532_setup" => some (.serial .readerSetup)
  | "pn532_wait_card" => some (.serial .waitCard)
  | "pn532_read_user" => some (.serial .readUser)
  | "pn532_read_passwd" => some (.serial .readPassword)
  | _ => none

def inMotors? : String → Option Kind
  | "servo_write" => some (.motor .servoWrite)
  | "servo_read" => some (.motor .servoRead)
  | "stepper_setup" => some (.motor .stepperSetup)
  | "stepper_rotate" => some (.motor .stepperRotate)
  | "stepper_wait" => some (.motor .stepperWait)
  | _ => none

def inTime? : String → Option Kind
  | "time_delay" => some (.time .delay)
  | "time_delaymicros" => some (.time .delayMicros)
  | "time_millis" => some (.time .millis)
  | "time_micros" => some (.time .micros)
  | "infinite_loop" => some (.time .halt)
  | "ticker_attach" => some (.time .ticker)
  | _ => none

/-- The SPI buses with the radio, the network interface and the voice module on them. -/
def inBuses? : String → Option Kind
  | "spi_setup" => some (.spi .setup)
  | "spi_transfer" => some (.spi .transfer)
  | "spi_transfer_return" => some (.spi .transferReturn)
  | "nrf24_setup" => some (.radio .setup)
  | "nrf24_irq" => some (.radio .irq)
  | "nrf24_check" => some (.radio .check)
  | "nrf24_readable" => some (.radio .readable)
  | "nrf24_checksum" => some (.radio .checksum)
  | "nrf24_write_len" => some (.radio .writeLength)
  | "nrf24_connect" => some (.radio .connect)
  | "w5500_setup" => some (.network .setup)
  | "w5500_yield" => some (.network .yield)
  | "w5500_publish" => some (.network .publish)
  | "w5500_command" => some (.network .command)
  | "ld3320_setup" => some (.voice .setup)
  | "ld3320_start" => some (.voice .start)
  | "ld3320_add" => some (.voice .add)
  | "ld3320_read" => some (.voice .read)
  | _ => none

/-- The sensors, the motion sensor on a serial line among them. -/
def inSensors? : String → Option Kind
  | "bh1750_setup" => some (.sensor .bh1750Setup)
  | "bh1750_read" => some (.sensor .bh1750Read)
  | "bmp180_setup" => some (.sensor .bmp180Setup)
  | "bmp180_temp" => some (.sensor .bmp180Temperature)
  | "bmp180_pressure" => some (.sensor .bmp180Pressure)
  | "dht11_setup" => some (.sensor .dht11Setup)
  | "dht11_temp" => some (.sensor .dht11Temperature)
  | "dht11_humidity" => some (.sensor .dht11Humidity)
  | "dht11_readable" => some (.sensor .dht11Readable)
  | "ds18B20_setup" => some (.sensor .ds18b20Setup)
  | "ds18B20_temp" => some (.sensor .ds18b20Temperature)
  | "ds18B20_readable" => some (.sensor .ds18b20Readable)
  | "sr501_setup" => some (.sensor .sr501Setup)
  | "sr501_o" => some (.sensor .sr501Output)
  | "sr501_readable" => some (.sensor .sr501Readable)
  | "sr501_reset" => some (.sensor .sr501Reset)
  | "analog_setup" => some (.sensor .analogSetup)
  | "analog_o" => some (.sensor .analogOutput)
  | "analog_readable" => some (.sensor .analogReadable)
  | "analog_reset" => some (.sensor .analogReset)
  | "jy901_setup" => some (.imu .setup)
  | "jy901_receive" => some (.imu .receive)
  | "jy901_getacc" => some (.imu .acceleration)
  | "jy901_getgyo" => some (.imu .gyration)
  | "jy901_getmag" => some (.imu .magnetism)
  | "jy901_getatt" => some (.imu .attitude)
  | _ => none

def inVariables? : String → Option Kind
  | "variables_declare" => some (.var .declare)
  | "variables_declare_array" => some (.var .declareArray)
  | "variables_get" => some (.var .get)
  | "variables_set" => some (.var .set)
  | "variables_set_type" => some (.var .cast)
  | _ => none

def inFiles? : String → Option Kind
  | "sd_fs" => some (.file .card)
  | "fs_fopen" => some (.file .openFile)
  | "fs_fprintf" => some (.file .print)
  | "fs_fscanf" => some (.file .scan)
  | "fs_fclose" => some (.file .closeFile)
  | _ => none

def inGcode? : String → Option Kind
  | "gcode_init" => some (.gcode .start)
  | "gcode_parse" => some (.gcode .parse)
  | "gcode_cb_home" => some (.gcode .home)
  | "gcode_cb_absmove" => some (.gcode .move)
  | "gcode_cb_setpos" => some (.gcode .setPosition)
  | _ => none

/-- The families in the order in which they are asked. -/
def families : List (String → Option Kind) :=
  [inLanguage?, inPins?, inSerial?, inMotors?, inTime?, inBuses?, inSensors?, inVariables?,
    inFiles?, inGcode?]

/-- The kind that the first family to answer gives for a name. -/
def ofName? (s : String) : Option Kind := families.findSome? fun family => family s

end Kind

/-- The kind of the block, if a family answers to its name. -/
def Block.kind? (b : Block) : Option Kind := Kind.ofName? b.kind

end MbedBlocks
