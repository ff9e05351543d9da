/-!
# Binary numbers

A double taken apart into sign, whole mantissa and power of two, so that its decimal digits can be
found in exact arithmetic.
-/

namespace MbedBlocks.Decimal

/-- What a double stands for: a finite one is `mantissa * 2 ^ exponent` under its sign. -/
inductive Binary where
  | nan
  | infinite (negative : Bool)
  | finite (negative : Bool) (mantissa : Nat) (exponent : Int)
deriving DecidableEq, Repr

namespace Binary

/-- Exponent of the last place of the smallest doubles. -/
def leastExponent : Int := -1074

/-- Mantissa at which the exponent of the last place changes. -/
def hiddenBit : Nat := Nat.pow 2 52

def ofBits (bits : Nat) : Binary :=
  let negative := bits / Nat.pow 2 63 % 2 == 1
  let scale : Nat := bits / Nat.pow 2 52 % Nat.pow 2 11
  let fraction := bits % Nat.pow 2 52
  if scale = 2047 then
    if fraction = 0 then infinite negative else nan
  else if scale = 0 then finite negative fraction leastExponent
  else finite negative (hiddenBit + fraction) ((scale : Int) - 1075)

def ofFloat (x : Float) : Binary := ofBits x.toBits.toNat

/-- The magnitude as a whole number, if it is one. -/
def whole? (mantissa : Nat) (exponent : Int) : Option Nat :=
  if 0 ≤ exponent then some (mantissa * Nat.pow 2 exponent.toNat)
  else
    let unit := Nat.pow 2 (-exponent).toNat
    if mantissa % unit = 0 then some (mantissa / unit) else none

end Binary

end MbedBlocks.Decimal
