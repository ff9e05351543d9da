import MbedBlocks.Block
import MbedBlocks.Kind.Info

/-!
# The catalogue

The kinds of blocks as editors and checks know them, each under its name. It is read wherever a
block has to be judged without emitting it.
-/

namespace MbedBlocks

namespace KindInfo

/-- A block that works on the serial unit its field names. -/
def onUnit (info : KindInfo) (family : Family) (tag : String) : KindInfo :=
  (info.options [("SERIAL_Pins", .serialPins)]).uses family "SERIAL_Pins" tag

def serialSetup (info : KindInfo) (family : Family) (label : Label) : KindInfo :=
  info.able
    (.pairedSetup
      { family, primary := "SERIAL_ID", secondary := "SERIAL_ID_TX", mapper := .serial, label })

def onBus (info : KindInfo) : KindInfo :=
  (info.options [("SPI_ID", .spi)]).uses .spi "SPI_ID" "spi_setup"

def i2cSetup (name : String) (family : Family) (label : Label) : KindInfo :=
  ((statement name).options [("I2C_SDA", .digitalPins), ("I2C_SCL", .digitalPins)]).able
    (.pairedSetup { family, primary := "I2C_SDA", secondary := "I2C_SCL", mapper := .i2c, label })

/-- A reading of an I2C sensor. Its warning is tagged by its own name. -/
def i2cRead (name : String) (family : Family) : KindInfo :=
  ((value name .decimal).options [("I2C_Pins", .i2cPins)]).uses family "I2C_Pins" name

def onPin (info : KindInfo) : KindInfo := info.options [("IO", .digitalPins)]

def ofImu (info : KindInfo) : KindInfo := info.uses .jy901 "JY901_NAME" "jy901_setup"

def ofStepper (info : KindInfo) : KindInfo := info.uses .stepper "STEP_Pin" "stepper_rotate"

end KindInfo

open KindInfo

/-- The entries in the order in which they are looked through. -/
def catalogue : List KindInfo :=
  [statement "mbed_functions",
    -- The language.
    value "math_number" .number,
    value "text" .text,
    value "logic_boolean" .boolean,
    value "math_arithmetic" .number,
    value "logic_compare" .boolean,
    value "logic_operation" .boolean,
    value "logic_negate" .boolean,
    statement "controls_if",
    statement "controls_whileUntil",
    -- Pins.
    (statement "io_digitalwrite").options [("PIN", .digitalPins)],
    (value "io_digitalread" .boolean).options [("PIN", .digitalPins)],
    (statement "io_builtin_led").options [("BUILT_IN_LED", .builtinLed)],
    (value "io_analogread" .decimal).options [("PIN", .analogPins)],
    value "io_highlow" .boolean,
    (statement "io_pwm_set").options [("PWM_PIN", .pwmPins)],
    (value "io_pulsein" .number).options [("PULSEPIN", .digitalPins)],
    (value "io_pulsetimeout" .number).options [("PULSEPIN", .digitalPins)],
    (statement "io_interrupt").options [("Pin", .digitalPins)],
    (statement "set_interrupt_prio").options [("IRQ", .irqNumber)],
    ((statement "io_tone").options [("TONEPIN", .pwmPins)]).able .toneFrequency,
    (statement "io_notone").options [("TONEPIN", .pwmPins)],
    -- Serial lines.
    ((statement "serial_setup").options
      [("SERIAL_ID", .digitalPins), ("SERIAL_ID_TX", .digitalPins),
        ("SPEED", .serialSpeed)]).serialSetup .serial
      { field := "SERIAL_NAME", before := "", after := " Setup RX:", neutral := "Serial Setup RX" },
    (statement "serial_print").onUnit .serial "serial_setup",
    (value "serial_getc" .character).onUnit .serial "serial_setup",
    (statement "serial_attach").onUnit .serial "serial_setup",
    value "print_content" .text,
    ((statement "pn532_setup").options
      [("SERIAL_ID", .digitalPins), ("SERIAL_ID_TX", .digitalPins)]).serialSetup .pn532
      { field := "SERIAL_NAME", before := "PN532 on ", after := " RX:", neutral := "PN532 RX:" },
    (value "pn532_wait_card" .boolean).onUnit .pn532 "pn532_setup",
    (value "pn532_read_user" .number).onUnit .pn532 "pn532_setup",
    (value "pn532_read_passwd" .number).onUnit .pn532 "pn532_setup",
    -- Motors.
    (statement "servo_write").options [("SERVO_PIN", .pwmPins)],
    (value "servo_read" .decimal).options [("SERVO_PIN", .pwmPins)],
    ((statement "stepper_setup").options
      [("STEP_Pin", .digitalPins), ("DIR_Pin", .digitalPins), ("EN_Pin", .digitalPins)]).able
      (.namedSetup { family := .stepper, field := "STEP_Pin" }),
    (statement "stepper_rotate").ofStepper,
    (statement "stepper_wait").ofStepper,
    -- Time.
    statement "time_delay",
    statement "time_delaymicros",
    value "time_millis" .largeNumber,
    value "time_micros" .largeNumber,
    statement "infinite_loop",
    statement "ticker_attach",
    -- The SPI buses and what hangs on them.
    ((statement "spi_setup").options [("SPI_ID", .spi), ("SPI1_ID", .spi1Choice)]).able
      (.namedSetup { family := .spi, field := "SPI_ID" }),
    (statement "spi_transfer").onBus,
    (value "spi_transfer_return" .number).onBus,
    statement "nrf24_setup",
    statement "nrf24_irq",
    statement "nrf24_check",
    value "nrf24_readable" .boolean,
    value "nrf24_checksum" .number,
    statement "nrf24_write_len",
    statement "nrf24_connect",
    statement "w5500_setup",
    statement "w5500_yield",
    statement "w5500_publish",
    statement "w5500_command",
    statement "ld3320_setup",
    statement "ld3320_start",
    statement "ld3320_add",
    value "ld3320_read" .number,
    -- Sensors.
    i2cSetup "bh1750_setup" .bh1750
      { field := "BH1750_NAME", before := "BH1750 on ", after := " Setup SDA:",
        neutral := "BH1750 Setup SDA" },
    i2cRead "bh1750_read" .bh1750,
    i2cSetup "bmp180_setup" .bmp180
      { field := "BMP180_NAME", before := "BMP180 on ", after := " Setup SDA:",
        neutral := "BMP180 Setup SDA" },
    i2cRead "bmp180_temp" .bmp180,
    i2cRead "bmp180_pressure" .bmp180,
    (statement "dht11_setup").onPin,
    (value "dht11_temp" .decimal).onPin,
    (value "dht11_humidity" .decimal).onPin,
    (value "dht11_readable" .boolean).onPin,
    (statement "ds18B20_setup").onPin,
    (value "ds18B20_temp" .decimal).onPin,
    (value "ds18B20_readable" .boolean).onPin,
    (statement "sr501_setup").onPin,
    (value "sr501_o" .boolean).onPin,
    (value "sr501_readable" .boolean).onPin,
    (statement "sr501_reset").onPin,
    (statement "analog_setup").options [("IO", .digitalPins), ("AIO", .analogPins)],
    (value "analog_o" .number).onPin,
    (value "analog_readable" .boolean).onPin,
    (statement "analog_reset").onPin,
    ((statement "jy901_setup").options [("TX", .serialPinsTx), ("RX", .serialPinsRx)]).able
      (.pairedSetup { family := .jy901, primary := "TX", secondary := "RX", mapper := .serial }),
    (statement "jy901_receive").ofImu,
    (statement "jy901_getacc").ofImu,
    (statement "jy901_getgyo").ofImu,
    (statement "jy901_getmag").ofImu,
    (statement "jy901_getatt").ofImu,
    -- Variables.
    statement "variables_declare",
    statement "variables_declare_array",
    value "variables_get" .number,
    statement "variables_set",
    value "variables_set_type" .number,
    -- Files.
    statement "sd_fs",
    statement "fs_fopen",
    statement "fs_fprintf",
    statement "fs_fscanf",
    statement "fs_fclose",
    -- The G-code interpreter.
    statement "gcode_init",
    statement "gcode_parse",
    statement "gcode_cb_home",
    statement "gcode_cb_absmove",
    statement "gcode_cb_setpos"]

/-- The entry with a name. -/
def KindInfo.lookup? (name : String) : Option KindInfo :=
  catalogue.find? fun info => info.name == name

namespace Block

/-- What the catalogue knows of the kind of the block. -/
def info? (b : Block) : Option KindInfo := lookup? b.kind

def capabilities (b : Block) : List Capability :=
  match b.info? with
  | some info => info.capabilities
  | none => []

def optionFields (b : Block) : List (String × Board.Category) :=
  match b.info? with
  | some info => info.optionFields
  | none => []

/-- The declared type of the block's value, or else the one of its kind. -/
def resultType? (b : Block) : Option ValueType :=
  b.output <|>
    match b.info?.map KindInfo.shape with
    | some (.value type) => some type
    | _ => none

end Block

end MbedBlocks
