import MbedBlocks.Decimal.Shortest

/-!
# Layouts of numbers

How a double is written: in full with no exponent, rounded to one place, as program text with whole
numbers kept whole, and as a JSON number.
-/

namespace MbedBlocks.Decimal

def zeros (n : Nat) : List Char := List.replicate n '0'

/-- Digits with the point where the power of ten puts it; whole decimals have no point. -/
def positional (d : Scaled) : List Char :=
  let digits := d.text
  if 0 ≤ d.exponent then digits ++ zeros d.exponent.toNat
  else
    let places := (-d.exponent).toNat
    if places < digits.length then
      digits.take (digits.length - places) ++ '.' :: digits.drop (digits.length - places)
    else '0' :: '.' :: (zeros (places - digits.length) ++ digits)

/-- One digit, the others after a point, and the power of ten with its sign. -/
def scientific (d : Scaled) : List Char :=
  let digits := d.text
  let power := d.exponent + digits.length - 1
  let fraction := digits.drop 1
  digits.take 1 ++ (if fraction.isEmpty then [] else '.' :: fraction) ++
    'e' :: (if power < 0 then '-' else '+') :: Nat.toDigits 10 power.natAbs

def signed (negative : Bool) (cs : List Char) : String :=
  String.ofList (if negative then '-' :: cs else cs)

def infinityText (negative : Bool) : String := if negative then "-inf" else "inf"

/-- The shortest digits that read back, never with an exponent; a half goes up. -/
def plain (x : Float) : String :=
  match Binary.ofFloat x with
  | .nan => "NaN"
  | .infinite negative => infinityText negative
  | .finite negative 0 _ => signed negative ['0']
  | .finite negative mantissa exponent =>
    signed negative (positional (shortest .up mantissa exponent))

/-- `numerator / denominator` to the nearest whole number, a half to the even neighbour. -/
def roundDiv (numerator denominator : Nat) : Nat :=
  let q := numerator / denominator
  let r := numerator % denominator
  if 2 * r < denominator ∨ (2 * r = denominator ∧ q % 2 = 0) then q else q + 1

/-- The exact value to one place, a half to the even neighbour. -/
def onePlace (x : Float) : String :=
  match Binary.ofFloat x with
  | .nan => "NaN"
  | .infinite negative => infinityText negative
  | .finite negative mantissa exponent =>
    let tenths := roundDiv (mantissa * 10 * Nat.pow 2 exponent.toNat) (Nat.pow 2 (-exponent).toNat)
    signed negative (Nat.toDigits 10 (tenths / 10) ++ '.' :: Nat.toDigits 10 (tenths % 10))

/-- Whole numbers below this one are written digit for digit. -/
def wholeLimit : Nat := Nat.pow 10 15

/-- A number as program text: whole numbers of moderate size without sign of zero or point, all
others as `plain` writes them. -/
def program (x : Float) : String :=
  match Binary.ofFloat x with
  | .finite negative mantissa exponent =>
    match Binary.whole? mantissa exponent with
    | some n =>
      if n < wholeLimit then signed (negative && n != 0) (Nat.toDigits 10 n) else plain x
    | none => plain x
  | _ => plain x

/-- A JSON number: whole ones keep `.0`, positional from `1e-5` up to below `1e16`, and a power of
ten beyond; a half goes to the even neighbour. Doubles without a JSON number are written `null`. -/
def json (x : Float) : String :=
  match Binary.ofFloat x with
  | .finite negative 0 _ => signed negative ['0', '.', '0']
  | .finite negative mantissa exponent =>
    let d := shortest .even mantissa exponent
    let power := d.exponent + d.text.length - 1
    signed negative <|
      if power < -5 ∨ 16 ≤ power then scientific d
      else if 0 ≤ d.exponent then positional d ++ ['.', '0']
      else positional d
  | _ => "null"

end MbedBlocks.Decimal
