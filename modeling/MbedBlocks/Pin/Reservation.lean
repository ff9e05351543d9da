import MbedBlocks.Board.Profile
import MbedBlocks.Options

/-!
# Pin reservations

Blocks reserve the pins they use for a role. The first reservation of a pin holds it; a later one
for a role that cannot share the pin is a conflict.
-/

namespace MbedBlocks

inductive PinRole where
  | input
  | output
  | pwm
  | servo
  | stepper
  | serial
  | i2c
  | spi
  | interrupt
deriving DecidableEq, Repr

namespace PinRole

def all : List PinRole := [input, output, pwm, servo, stepper, serial, i2c, spi, interrupt]

def name : PinRole → String
  | input => "INPUT"
  | output => "OUTPUT"
  | pwm => "PWM"
  | servo => "SERVO"
  | stepper => "STEPPER"
  | serial => "SERIAL"
  | i2c => "I2C"
  | spi => "SPI"
  | interrupt => "INTERRUPT"

def ofName? (s : String) : Option PinRole := all.find? fun r => r.name == s

/-- Roles that may share a pin: equal ones, and an interrupt line that is also read. -/
def compatible (a b : PinRole) : Bool :=
  a == b || (a == input && b == interrupt) || (a == interrupt && b == input)

end PinRole

/-- Who uses a pin: the block, its role and what it is for. -/
structure Reservation where
  blockId : String
  role : PinRole
  purpose : String
deriving DecidableEq, Repr

/-- The first reservation of each pin. -/
structure Reservations where
  policy : ReservationPolicy
  pins : Dict Reservation := {}
deriving DecidableEq

namespace Reservations

def get? (r : Reservations) (pin : String) : Option Reservation := r.pins.get? pin

def unknownPinWarnings (board : Board) (blockId pin : String) : List Warning :=
  if board.knowsPin pin then []
  else
    [{ blockId
       tag := Tag.unknownResource
       message := "Pin " ++ pin ++ " is not available on board " ++ board.id }]

/-- The conflict of a request with the reservation that holds the pin. -/
def conflictWarnings (r : Reservations) (pin : String) (request : Reservation) : List Warning :=
  match r.get? pin with
  | some holder =>
    if r.policy = .strict ∧ !holder.role.compatible request.role then
      [.ofError request.blockId Tag.pinConflict
        (.resourceConflict pin holder.role.name holder.blockId request.role.name)]
    else []
  | none => []

/-- The warnings that a request causes; an empty pin reserves nothing. -/
def warnings (r : Reservations) (board : Board) (pin : String) (request : Reservation) :
    List Warning :=
  if pin = "" then []
  else unknownPinWarnings board request.blockId pin ++ r.conflictWarnings pin request

/-- The reservations after a request; a pin that is held stays with its holder. -/
def reserve (r : Reservations) (pin : String) (request : Reservation) : Reservations :=
  if pin = "" ∨ r.pins.contains pin then r else { r with pins := r.pins.insert pin request }

end Reservations

end MbedBlocks
