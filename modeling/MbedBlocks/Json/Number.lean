import MbedBlocks.Decimal.Numeral
import MbedBlocks.Json.Basic

/-!
# JSON numbers

How the numbers of a document are read. A whole number that fits into 64 bits is kept as it is. Of
any other number the leading digits that fit into 64 bits are rounded to a double, which a power of
ten then multiplies or divides. Each of the steps rounds, so the result need not be the double
nearest to what is written.
-/

namespace MbedBlocks.Json

open Decimal (applySign digitValue digitsValue readPower?)

/-- A number as it is written. -/
structure Number where
  negative : Bool
  whole : List Char
  /-- The digits after the point; without a point there are none. -/
  fraction : List Char
  /-- The power of ten after `e`, if one is written. -/
  power : Option Int
deriving DecidableEq, Repr

namespace Number

/-- Whether there is a minus sign, and what follows it. -/
def splitMinus : List Char → Bool × List Char
  | '-' :: rest => (true, rest)
  | cs => (false, cs)

/-- The digits after a point if there is one, and what follows them. -/
def fraction? : List Char → Option (List Char × List Char)
  | '.' :: more =>
    let fraction := more.takeWhile Char.isDigit
    if fraction.isEmpty then none else some (fraction, more.dropWhile Char.isDigit)
  | cs => some ([], cs)

/-- The power of ten that ends the number, if one is written. -/
def power? (cs : List Char) : Option (Option Int) :=
  if cs.isEmpty then some none else (readPower? cs).map some

/-- No plus sign, no idle leading zero, and digits on both sides of a point. -/
def read? (cs : List Char) : Option Number := do
  let (negative, body) := splitMinus cs
  let whole := body.takeWhile Char.isDigit
  let (fraction, rest) ← fraction? (body.dropWhile Char.isDigit)
  let power ← power? rest
  if whole.isEmpty || (whole.head? == some '0' && whole.length != 1) then none
  else some { negative, whole, fraction, power }

/-- Whole numbers below this one fit into 64 bits. -/
def wordLimit : Nat := Nat.pow 2 64

/-- The number itself if it is a 64-bit word, one with a sign bit if it is negative. Zero with a
sign is none. -/
def word? (n : Number) : Option Int :=
  let value := digitsValue n.whole
  if !n.fraction.isEmpty || n.power.isSome then none
  else if n.negative then
    if 0 < value ∧ 2 * value ≤ wordLimit then some (-(value : Int)) else none
  else if value < wordLimit then some value
  else none

/-- Appends digits as long as the value fits into 64 bits, and counts those that are left out. -/
def append (value : Nat) : List Char → Nat × Nat
  | [] => (value, 0)
  | c :: rest =>
    let longer := 10 * value + digitValue c
    if longer < wordLimit then append longer rest else (value, rest.length + 1)

/-- The leading digits and the power of ten that goes with them. What is left out before the point
raises the power; what is taken after it lowers the power. -/
def leading (n : Number) : Nat × Int :=
  let (whole, dropped) := append 0 n.whole
  let (value, cut) := append whole n.fraction
  let taken : Int := (n.fraction.length : Int) - cut
  (value, n.power.getD 0 + dropped - taken)

/-- The double nearest to a power of ten. -/
def powerOfTen (power : Nat) : Float := Float.ofScientific 1 false power

/-- Largest power of ten that is a double. -/
def greatestPower : Nat := 308

/-- `x * 10 ^ power` for an `x` below 2 to the 64. A power that is too small for one division takes
two, and nothing is left of `x` after two whole ones. -/
def scale (x : Float) (power : Int) : Float :=
  let most : Int := greatestPower
  if power < -2 * most then 0
  else if power < -most then
    x / powerOfTen greatestPower / powerOfTen (-power - most).toNat
  else if power < 0 then x / powerOfTen (-power).toNat
  else if power ≤ most then x * powerOfTen power.toNat
  else if x == 0 then x
  else 1 / 0

/-- The double that is read; an infinity means that the number is out of range. -/
def toFloat (n : Number) : Float :=
  let (value, power) := n.leading
  applySign n.negative (scale (Float.ofNat value) power)

def toJson (n : Number) : Json :=
  match n.word? with
  | some word => .int word
  | none => .num n.toFloat

end Number

end MbedBlocks.Json
