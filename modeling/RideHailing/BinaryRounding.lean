import Mathlib.Algebra.Order.Ring.Rat
import Mathlib.Data.Rat.Floor

/-!
# Rounding to binary digits

A floating-point operation computes the exact result and keeps so many of its binary digits:
it takes the nearest number that has no more of them, and of two that are equally near the
one whose last digit is even.  Below the smallest normal number the digits stop at a fixed
place.
-/

namespace RideHailing

namespace Binary

/-- The nearest integer, the even one of two. -/
def roundHalfEven (value : ℚ) : Int :=
  let below := value.floor
  if value - below < 1 / 2 then below
  else if 1 / 2 < value - below then below + 1
  else if below % 2 = 0 then below
  else below + 1

/-- The number times a power of two. -/
def scale (value : ℚ) : Int → ℚ
  | .ofNat exponent => value * (2 ^ exponent : Nat)
  | .negSucc exponent => value / (2 ^ (exponent + 1) : Nat)

/-- The place of the leading binary digit of a number that is not zero. -/
def leadingPlace (value : ℚ) : Int :=
  let guess : Int := (value.num.natAbs.log2 : Int) - value.den.log2
  -- The lengths of the numerator and of the denominator are one off at most.
  if scale 1 guess ≤ |value| then guess else guess - 1

/-- The nearest number with so many digits, none of them below the lowest place. -/
def nearest (digits : Nat) (lowest : Int) (value : ℚ) : ℚ :=
  let place := max (leadingPlace value - digits + 1) lowest
  scale (roundHalfEven (scale value (-place))) place

end Binary

end RideHailing
