import MbedBlocks.Board.Resource
import MbedBlocks.ValueType

/-!
# What is known of a block kind

The shape of its blocks, which of their fields take their options from the board, and how they take
part in the pairing of setup blocks with the blocks that need them.
-/

namespace MbedBlocks

open Board (Category Mapper)

/-- How a block plugs into a program. -/
inductive Shape where
  | statement
  | value (type : ValueType)
deriving DecidableEq, Repr

def Shape.isValue : Shape → Bool
  | statement => false
  | value _ => true

/-- Peripherals whose setup blocks and using blocks are paired. -/
inductive Family where
  | serial
  | pn532
  | jy901
  | bh1750
  | bmp180
  | stepper
  | spi
deriving DecidableEq, Repr

/-- A field of a setup block that shows the unit between two texts, or a neutral text while there is
none. -/
structure Label where
  field : String
  before : String
  after : String
  neutral : String
deriving DecidableEq, Repr

namespace Label

def render (label : Label) (unit : String) : String := label.before ++ unit ++ label.after

/-- The text with a mark where the unit stands. -/
def template (label : Label) : String := label.render "%1"

end Label

/-- A block that sets up the unit to which two of its pins belong. -/
structure PairedSetup where
  family : Family
  /-- The pin whose unit names the instance. -/
  primary : String
  /-- The pin that must belong to the same unit. -/
  secondary : String
  mapper : Mapper
  label : Option Label := none
deriving DecidableEq, Repr

/-- Tag of the warning that two pins belong to different units. -/
def PairedSetup.mismatchTag (setup : PairedSetup) : String :=
  match setup.mapper with
  | .serial => "serial_rx_tx_mismatch"
  | .i2c => "i2c_mismatch"

/-- A setup block whose instance is named by one of its fields. -/
structure NamedSetup where
  family : Family
  field : String
deriving DecidableEq, Repr

/-- A block that works on an instance which another block sets up. -/
structure InstanceUse where
  family : Family
  /-- The field that names the unit. -/
  field : String
  /-- Tag of the warning that the setup block is missing. -/
  tag : String
deriving DecidableEq, Repr

inductive Capability where
  | pairedSetup (setup : PairedSetup)
  | namedSetup (setup : NamedSetup)
  | uses (use : InstanceUse)
  /-- A literal frequency must be audible. -/
  | toneFrequency
deriving DecidableEq, Repr

structure KindInfo where
  name : String
  shape : Shape
  capabilities : List Capability := []
  /-- Fields whose dropdown options come from the board. -/
  optionFields : List (String × Category) := []
deriving DecidableEq, Repr

namespace KindInfo

def statement (name : String) : KindInfo := { name, shape := .statement }

def value (name : String) (type : ValueType) : KindInfo := { name, shape := .value type }

def options (info : KindInfo) (fields : List (String × Category)) : KindInfo :=
  { info with optionFields := fields }

def able (info : KindInfo) (capability : Capability) : KindInfo :=
  { info with capabilities := [capability] }

def uses (info : KindInfo) (family : Family) (field tag : String) : KindInfo :=
  info.able (.uses { family, field, tag })

def pairedSetup? (info : KindInfo) : Option PairedSetup :=
  info.capabilities.findSome? fun
    | .pairedSetup setup => some setup
    | _ => none

def namedSetup? (info : KindInfo) : Option NamedSetup :=
  info.capabilities.findSome? fun
    | .namedSetup setup => some setup
    | _ => none

def use? (info : KindInfo) : Option InstanceUse :=
  info.capabilities.findSome? fun
    | .uses use => some use
    | _ => none

end KindInfo

end MbedBlocks
