import Mathlib.Data.Rat.Defs
import Mathlib.Algebra.Order.Ring.Rat

/-!
# Decimal floating-point numbers in a bounded context

A finite decimal is an integer coefficient and a power of ten.  Sums, products
and quotients are computed exactly and then rounded half-even to the digits of
the context; `quantize` rounds half-up to a given exponent.  The digits of the
result matter as well as its value, so a trailing zero is kept.
-/

namespace RideHailing

inductive Decimal where
  | finite (coefficient exponent : Int)
  | nan
deriving DecidableEq, Repr

namespace Decimal

/-- Significant digits kept by the default context. -/
def precision : Nat := 28

def digitCount (number : Nat) : Nat :=
  (Nat.toDigits 10 number).length

/-- A magnitude with the sign of another integer. -/
def withSign (sign : Int) (magnitude : Nat) : Int :=
  if sign < 0 then -(magnitude : Int) else magnitude

/-- Divide by a power of ten, rounding a tie to the even neighbour. -/
def shiftHalfEven (magnitude digits : Nat) : Nat :=
  let quotient := magnitude / 10 ^ digits
  let rest := magnitude % 10 ^ digits
  if 2 * rest < 10 ^ digits then quotient
  else if 10 ^ digits < 2 * rest then quotient + 1
  else quotient + quotient % 2

/-- Divide by a power of ten, rounding a tie away from zero. -/
def shiftHalfUp (magnitude digits : Nat) : Nat :=
  let quotient := magnitude / 10 ^ digits
  if 10 ^ digits ≤ 2 * (magnitude % 10 ^ digits) then quotient + 1 else quotient

/-- Round a coefficient to the digits of the context. -/
def fix (coefficient exponent : Int) : Decimal :=
  let excess := digitCount coefficient.natAbs - precision
  if excess = 0 then .finite coefficient exponent
  else
    let rounded := shiftHalfEven coefficient.natAbs excess
    -- Rounding up can carry into one more digit, which is again a zero.
    if digitCount rounded ≤ precision then
      .finite (withSign coefficient rounded) (exponent + excess)
    else .finite (withSign coefficient (rounded / 10)) (exponent + excess + 1)

/-- The coefficient of a number once its exponent is lowered. -/
def lowered (coefficient exponent target : Int) : Int :=
  coefficient * 10 ^ (exponent - target).toNat

def add : Decimal → Decimal → Decimal
  | .finite c e, .finite c' e' =>
      let exponent := min e e'
      fix (lowered c e exponent + lowered c' e' exponent) exponent
  | _, _ => .nan

def mul : Decimal → Decimal → Decimal
  | .finite c e, .finite c' e' => fix (c * c') (e + e')
  | _, _ => .nan

/-- Drop trailing zeros while the exponent is below the ideal one. -/
def strip : Nat → Int → Int → Int → Int × Int
  | 0, _, coefficient, exponent => (coefficient, exponent)
  | fuel + 1, ideal, coefficient, exponent =>
      if exponent < ideal ∧ coefficient % 10 = 0 then
        strip fuel ideal (coefficient / 10) (exponent + 1)
      else (coefficient, exponent)

/-- Quotient by a non-zero divisor. -/
def div : Decimal → Decimal → Decimal
  | .finite c e, .finite c' e' =>
      if c = 0 then .finite 0 (e - e')
      else
        let shift : Int := (digitCount c'.natAbs : Int) -
          digitCount c.natAbs + precision + 1
        let dividend := c.natAbs * 10 ^ shift.toNat
        let divisor := c'.natAbs * 10 ^ (-shift).toNat
        let quotient := dividend / divisor
        let exponent := e - e' - shift
        let sign := c.sign * c'.sign
        if dividend % divisor = 0 then
          let (stripped, raised) :=
            strip (shift.toNat + 1) (e - e') quotient exponent
          fix (sign * stripped) raised
        else
          -- A sticky last digit keeps the later rounding correct.
          let sticky := if quotient % 5 = 0 then quotient + 1 else quotient
          fix (sign * sticky) exponent
  | _, _ => .nan

/-- The exact value; a NaN has none. -/
def toRat? : Decimal → Option ℚ
  | .finite c e =>
      some (if 0 ≤ e then (c : ℚ) * 10 ^ e.toNat else (c : ℚ) / 10 ^ (-e).toNat)
  | .nan => none

/-- Comparison by value; a NaN compares with nothing. -/
def lt (first second : Decimal) : Bool :=
  match first.toRat?, second.toRat? with
  | some a, some b => decide (a < b)
  | _, _ => false

/-- `max(a, b)`: the first argument unless the second is greater. -/
def maximum (first second : Decimal) : Decimal :=
  if first.lt second then second else first

/-- `min(a, b)`: the first argument unless the second is smaller. -/
def minimum (first second : Decimal) : Decimal :=
  if second.lt first then second else first

/-- Round half-up to the given exponent; refused when the result has more
digits than the context keeps. -/
def quantize (number : Decimal) (target : Int) : Option Decimal :=
  match number with
  | .nan => some .nan
  | .finite c e =>
      let rescaled := if target ≤ e then lowered c e target
        else withSign c (shiftHalfUp c.natAbs (target - e).toNat)
      if digitCount rescaled.natAbs ≤ precision then
        some (.finite rescaled target)
      else none

end Decimal

end RideHailing
