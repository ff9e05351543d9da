import MbedBlocks.Diagnostics
import MbedBlocks.Dict

/-!
# Board profiles

What one board offers: the options of each category, the units its pins belong to, and the pins of
its SPI buses.
-/

namespace MbedBlocks

namespace Board

/-- An entry of a dropdown: what the user sees and what the field stores. -/
structure Choice where
  label : String
  value : String
deriving DecidableEq, Repr

/-- The pins of an SPI bus. -/
structure BusPins where
  mosi : String
  miso : String
  sck : String
deriving DecidableEq, Repr

/-- The pins of a bus that a board does not have. -/
def BusPins.unconnected : BusPins := { mosi := "NC", miso := "NC", sck := "NC" }

end Board

open Board

structure Board where
  id : String
  name : String
  description : String := ""
  digitalPins : List Choice
  analogPins : List Choice
  pwmPins : List Choice
  serialPinsRx : List Choice
  serialPinsTx : List Choice
  serialPins : List Choice
  serialSpeed : List Choice
  /-- Serial unit of each pin. -/
  serialMapper : Dict String
  spi : List Choice
  spi1Choice : List Choice := []
  /-- A second set of pins for the bus `SPI1`. -/
  spi1Alternative : Option BusPins := none
  spiPins : Dict BusPins
  i2cPinsSda : List Choice
  i2cPinsScl : List Choice
  i2cPins : List Choice
  i2cSpeed : List Choice
  /-- I2C unit of each pin. -/
  i2cMapper : Dict String
  builtinLed : List Choice
  irqNumber : List Choice
deriving DecidableEq

namespace Board

def options (board : Board) : Category → List Choice
  | .digitalPins => board.digitalPins
  | .analogPins => board.analogPins
  | .pwmPins => board.pwmPins
  | .serialPinsRx => board.serialPinsRx
  | .serialPinsTx => board.serialPinsTx
  | .serialPins => board.serialPins
  | .serialSpeed => board.serialSpeed
  | .spi => board.spi
  | .spi1Choice => board.spi1Choice
  | .i2cPinsSda => board.i2cPinsSda
  | .i2cPinsScl => board.i2cPinsScl
  | .i2cPins => board.i2cPins
  | .i2cSpeed => board.i2cSpeed
  | .builtinLed => board.builtinLed
  | .irqNumber => board.irqNumber

def optionValues (board : Board) (category : Category) : List String :=
  (board.options category).map (·.value)

def hasOption (board : Board) (category : Category) (value : String) : Bool :=
  (board.optionValues category).contains value

/-- Whether any category of pins has the pin. -/
def knowsPin (board : Board) (pin : String) : Bool :=
  Category.ofPins.any fun category => board.hasOption category pin

def mapper (board : Board) : Mapper → Dict String
  | .serial => board.serialMapper
  | .i2c => board.i2cMapper

/-- The unit that a pin belongs to. -/
def unit (board : Board) (pin : String) (mapper : Mapper) : Except Error String :=
  match (board.mapper mapper).get? pin with
  | some unit => .ok unit
  | none => .error (.unknownResource pin mapper)

/-- The choice that selects a set of bus pins: clock, input and output in this order. -/
def BusPins.choice (pins : BusPins) : String := pins.sck ++ "," ++ pins.miso ++ "," ++ pins.mosi

/-- The pins of an SPI bus. For `SPI1` the choice may select the second set. -/
def busPins? (board : Board) (bus : String) (choice : Option String) : Option BusPins :=
  match board.spi1Alternative with
  | some pins =>
    if bus = "SPI1" ∧ choice = some pins.choice then some pins else board.spiPins.get? bus
  | none => board.spiPins.get? bus

end Board

/-- The boards that can be compiled for, by id. -/
structure Boards where
  profiles : Dict Board := {}
deriving DecidableEq

namespace Boards

def register (boards : Boards) (board : Board) : Boards :=
  { profiles := boards.profiles.insert board.id board }

def get (boards : Boards) (id : String) : Except Error Board :=
  match boards.profiles.get? id with
  | some board => .ok board
  | none => .error (.boardNotFound id)

/-- The ids in increasing order. -/
def ids (boards : Boards) : List String := boards.profiles.keys

end Boards

end MbedBlocks
