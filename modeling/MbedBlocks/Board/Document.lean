import MbedBlocks.Board.Profile
import MbedBlocks.Json.Basic

/-!
# Board documents

Profiles as JSON. Dropdown entries are arrays of label and value.
-/

namespace MbedBlocks.Board

open Json

def Choice.ofJson? : Json → Option Choice
  | .arr [.str label, .str value] => some { label, value }
  | _ => none

def Choice.toJson (c : Choice) : Json := .arr [.str c.label, .str c.value]

def BusPins.ofJson? (j : Json) : Option BusPins := do
  let member ← j.record? ["mosi", "miso", "sck"]
  let mosi ← required? text? (member "mosi")
  let miso ← required? text? (member "miso")
  let sck ← required? text? (member "sck")
  return { mosi, miso, sck }

def BusPins.toJson (pins : BusPins) : Json :=
  .obj [("mosi", .str pins.mosi), ("miso", .str pins.miso), ("sck", .str pins.sck)]

/-- The members of a profile in their order. -/
def memberNames : List String :=
  ["id", "name", "description", "digital_pins", "analog_pins", "pwm_pins", "serial_pins_rx",
    "serial_pins_tx", "serial_pins", "serial_speed", "serial_mapper", "spi", "spi1_choice",
    "spi1_alternative", "spi_pins", "i2c_pins_sda", "i2c_pins_scl", "i2c_pins", "i2c_speed",
    "i2c_mapper", "builtin_led", "irq_number"]

def ofJson? (j : Json) : Option Board := do
  let member ← j.record? memberNames
  let choices (name : String) : Option (List Choice) :=
    required? (listOf? Choice.ofJson?) (member name)
  let id ← required? text? (member "id")
  let name ← required? text? (member "name")
  let description ← orElse? text? "" (member "description")
  let digitalPins ← choices "digital_pins"
  let analogPins ← choices "analog_pins"
  let pwmPins ← choices "pwm_pins"
  let serialPinsRx ← choices "serial_pins_rx"
  let serialPinsTx ← choices "serial_pins_tx"
  let serialPins ← choices "serial_pins"
  let serialSpeed ← choices "serial_speed"
  let serialMapper ← required? (dictOf? text?) (member "serial_mapper")
  let spi ← choices "spi"
  let spi1Choice ← orElse? (listOf? Choice.ofJson?) [] (member "spi1_choice")
  let spi1Alternative ← orElse? (optional? BusPins.ofJson?) none (member "spi1_alternative")
  let spiPins ← required? (dictOf? BusPins.ofJson?) (member "spi_pins")
  let i2cPinsSda ← choices "i2c_pins_sda"
  let i2cPinsScl ← choices "i2c_pins_scl"
  let i2cPins ← choices "i2c_pins"
  let i2cSpeed ← choices "i2c_speed"
  let i2cMapper ← required? (dictOf? text?) (member "i2c_mapper")
  let builtinLed ← choices "builtin_led"
  let irqNumber ← choices "irq_number"
  return {
    id, name, description, digitalPins, analogPins, pwmPins, serialPinsRx, serialPinsTx, serialPins,
    serialSpeed, serialMapper, spi, spi1Choice, spi1Alternative, spiPins, i2cPinsSda, i2cPinsScl,
    i2cPins, i2cSpeed, i2cMapper, builtinLed, irqNumber }

def toJson (board : Board) : Json :=
  let choices (l : List Choice) : Json := .arr (l.map Choice.toJson)
  let units (d : Dict String) : Json := .obj (d.entries.map fun e => (e.1, .str e.2))
  .obj
    [("id", .str board.id),
     ("name", .str board.name),
     ("description", .str board.description),
     ("digital_pins", choices board.digitalPins),
     ("analog_pins", choices board.analogPins),
     ("pwm_pins", choices board.pwmPins),
     ("serial_pins_rx", choices board.serialPinsRx),
     ("serial_pins_tx", choices board.serialPinsTx),
     ("serial_pins", choices board.serialPins),
     ("serial_speed", choices board.serialSpeed),
     ("serial_mapper", units board.serialMapper),
     ("spi", choices board.spi),
     ("spi1_choice", choices board.spi1Choice),
     ("spi1_alternative", (board.spi1Alternative.map BusPins.toJson).getD .null),
     ("spi_pins", .obj (board.spiPins.entries.map fun e => (e.1, e.2.toJson))),
     ("i2c_pins_sda", choices board.i2cPinsSda),
     ("i2c_pins_scl", choices board.i2cPinsScl),
     ("i2c_pins", choices board.i2cPins),
     ("i2c_speed", choices board.i2cSpeed),
     ("i2c_mapper", units board.i2cMapper),
     ("builtin_led", choices board.builtinLed),
     ("irq_number", choices board.irqNumber)]

end MbedBlocks.Board
