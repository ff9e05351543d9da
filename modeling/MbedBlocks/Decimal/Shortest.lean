import MbedBlocks.Decimal.Binary

/-!
# Shortest decimals

Of all decimals that read back as a given double, the one with the fewest digits, and among those
the nearest. A decimal reads back as the double exactly when it lies in the interval of reals that
round to it; the ends belong to the interval when the mantissa is even. For one, two, up to
seventeen digits the two neighbours of the value on that decimal grid are tested.
-/

namespace MbedBlocks.Decimal

/-- The decimal `digits * 10 ^ exponent`. -/
structure Scaled where
  digits : Nat
  exponent : Int
deriving DecidableEq, Repr

/-- Which of two equally near neighbours is taken. -/
inductive Tie where
  | up
  | even
deriving DecidableEq, Repr

namespace Scaled

/-- The same decimal without trailing zero digits. -/
def normalize (d : Scaled) : Scaled :=
  if h : d.digits ≠ 0 ∧ d.digits % 10 = 0 then
    normalize ⟨d.digits / 10, d.exponent + 1⟩
  else d
termination_by d.digits
decreasing_by
  have := h.1
  exact Nat.div_lt_self (by omega) (by omega)

def text (d : Scaled) : List Char := Nat.toDigits 10 d.digits

end Scaled

/-- The power of ten of the leading digit of `mantissa * 2 ^ exponent`. More places than any double
needs are taken first, so the count of digits of a whole number gives it. -/
def leadingPower (mantissa : Nat) (exponent : Int) : Int :=
  let places : Nat := 400
  let whole := mantissa * Nat.pow 10 places * Nat.pow 2 exponent.toNat / Nat.pow 2 (-exponent).toNat
  ((Nat.toDigits 10 whole).length : Int) - 1 - places

/-- Reals that round to `mantissa * 2 ^ exponent`, in quarters of its last place. The gap below a
power of two is half the gap above it. -/
structure Interval where
  low : Nat
  high : Nat
  closed : Bool
deriving DecidableEq, Repr

def roundingInterval (mantissa : Nat) (exponent : Int) : Interval :=
  let narrow := mantissa = Binary.hiddenBit ∧ exponent ≠ Binary.leastExponent
  { low := if narrow then 4 * mantissa - 1 else 4 * mantissa - 2
    high := 4 * mantissa + 2
    closed := mantissa % 2 == 0 }

/-- The double's neighbour with `count` digits that reads back as it, if there is one. -/
def onGrid? (tie : Tie) (mantissa : Nat) (exponent : Int) (count : Nat) : Option Scaled :=
  let power := leadingPower mantissa exponent + 1 - count
  -- `d * 10 ^ power` in quarters of the last place is `d * up / down`.
  let up := Nat.pow 10 power.toNat * Nat.pow 2 (2 - exponent).toNat
  let down := Nat.pow 10 (-power).toNat * Nat.pow 2 (exponent - 2).toNat
  let interval := roundingInterval mantissa exponent
  let value := 4 * mantissa * down
  let inside (d : Nat) : Bool :=
    if interval.closed then interval.low * down ≤ d * up && d * up ≤ interval.high * down
    else interval.low * down < d * up && d * up < interval.high * down
  let below := value / up
  let above := below + 1
  match inside below, inside above with
  | false, false => none
  | true, false => some ⟨below, power⟩
  | false, true => some ⟨above, power⟩
  | true, true =>
    let lower := value - below * up
    let upper := above * up - value
    let takeBelow :=
      lower < upper || (lower == upper && tie == .even && below % 2 == 0)
    some ⟨if takeBelow then below else above, power⟩

/-- The shortest decimal that reads back as `mantissa * 2 ^ exponent`, for a mantissa other than
zero. -/
def shortest (tie : Tie) (mantissa : Nat) (exponent : Int) : Scaled :=
  match (List.range 17).findSome? fun n => onGrid? tie mantissa exponent (n + 1) with
  | some d => d.normalize
  | none => ⟨0, 0⟩

end MbedBlocks.Decimal
