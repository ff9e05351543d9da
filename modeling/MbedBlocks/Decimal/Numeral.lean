/-!
# Numerals

Decimal numerals as they stand in text fields, and the double nearest to each.
-/

namespace MbedBlocks.Decimal

/-- The decimal `digits * 10 ^ exponent` under its sign, exactly as it was written. -/
structure Numeral where
  negative : Bool
  digits : Nat
  exponent : Int
deriving DecidableEq, Repr

def applySign (negative : Bool) (x : Float) : Float := if negative then -x else x

/-- The nearest double; too large a numeral gives an infinity. -/
def Numeral.toFloat (n : Numeral) : Float :=
  applySign n.negative (Float.ofScientific n.digits (n.exponent < 0) n.exponent.natAbs)

def digitValue (c : Char) : Nat := c.toNat - '0'.toNat

def digitsValue (cs : List Char) : Nat := cs.foldl (fun n c => 10 * n + digitValue c) 0

/-- Sign, if any, and what follows it. -/
def splitSign : List Char → Bool × List Char
  | '-' :: rest => (true, rest)
  | '+' :: rest => (false, rest)
  | cs => (false, cs)

/-- The power of ten that ends a numeral: nothing, or `e` and a whole number. -/
def readPower? : List Char → Option Int
  | [] => some 0
  | c :: rest =>
    if c = 'e' ∨ c = 'E' then
      let (negative, digits) := splitSign rest
      if digits.isEmpty || !digits.all Char.isDigit then none
      else some (if negative then -(digitsValue digits : Int) else digitsValue digits)
    else none

/-- An unsigned numeral: digits with at most one point among or beside them and a power of ten. -/
def readUnsigned? (negative : Bool) (cs : List Char) : Option Numeral :=
  let whole := cs.takeWhile Char.isDigit
  let rest := cs.dropWhile Char.isDigit
  let (fraction, power) :=
    match rest with
    | '.' :: more => (more.takeWhile Char.isDigit, more.dropWhile Char.isDigit)
    | _ => ([], rest)
  if whole.isEmpty && fraction.isEmpty then none
  else
    (readPower? power).map fun p =>
      { negative
        digits := digitsValue (whole ++ fraction)
        exponent := p - fraction.length }

/-- The number a text spells: a signed numeral, or the name of an infinity or of no number in any
case of letters. Nothing may stand before or after it. -/
def readFloat? (s : String) : Option Float :=
  let (negative, body) := splitSign s.toList
  let name := body.map Char.toLower
  if name = "inf".toList ∨ name = "infinity".toList then
    some (applySign negative (1.0 / 0.0))
  else if name = "nan".toList then some (0.0 / 0.0)
  else (readUnsigned? negative body).map Numeral.toFloat

end MbedBlocks.Decimal
