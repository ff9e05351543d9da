/-!
# Board resources

The kinds of resources a board offers to block fields, and the two maps that tell which unit a pin
belongs to.
-/

namespace MbedBlocks.Board

/-- Lists of options that a board offers to the dropdown fields of blocks. -/
inductive Category where
  | digitalPins
  | analogPins
  | pwmPins
  | serialPinsRx
  | serialPinsTx
  | serialPins
  | serialSpeed
  | spi
  | spi1Choice
  | i2cPinsSda
  | i2cPinsScl
  | i2cPins
  | i2cSpeed
  | builtinLed
  | irqNumber
deriving DecidableEq, Repr

/-- The categories whose values are physical pins. -/
def Category.ofPins : List Category :=
  [.digitalPins, .analogPins, .pwmPins, .serialPinsRx, .serialPinsTx, .i2cPinsSda, .i2cPinsScl,
    .builtinLed]

/-- Which map turns a pin into its unit. -/
inductive Mapper where
  | serial
  | i2c
deriving DecidableEq, Repr

def Mapper.text : Mapper → String
  | serial => "serial"
  | i2c => "i2c"

end MbedBlocks.Board
