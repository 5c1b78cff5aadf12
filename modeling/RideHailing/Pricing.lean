import RideHailing.Models

/-!
# Fare and surge formulas

The pure part of `pricing.py`.  A fare is refused when `quantize` is, which
happens only beyond twenty-eight significant digits.
-/

namespace RideHailing.Pricing

def baseFare : Decimal := .finite 200 (-2)
def perKmRate : Decimal := .finite 150 (-2)
def surgeMinMultiplier : Decimal := .finite 10 (-1)
def surgeMaxMultiplier : Decimal := .finite 30 (-1)
def surgeSearchRadiusKm : ℚ := 3
def surgeTtlSeconds : Nat := 30

/-- The exponent of `TWO_PLACES`. -/
def twoPlaces : Int := -2

/-- The argument is the decimal written by `str(distance_km)`. -/
def calculateBaseFare (distanceKm : Decimal) : Decimal :=
  baseFare.add (perKmRate.mul distanceKm)

def computeSurgeMultiplier (pendingRides availableDrivers : Int) :
    Option Decimal :=
  if availableDrivers = 0 then some surgeMaxMultiplier
  else
    let raw := (Decimal.finite pendingRides 0).div (.finite availableDrivers 0)
    let clamped :=
      Decimal.maximum surgeMinMultiplier (Decimal.minimum surgeMaxMultiplier raw)
    clamped.quantize twoPlaces

def calculateFare (distanceKm surgeMultiplier : Decimal) : Option Decimal :=
  ((calculateBaseFare distanceKm).mul surgeMultiplier).quantize twoPlaces

/-- Two decimal digits of a number below one hundred. -/
def twoDigits (number : Nat) : String :=
  if number < 10 then "0" ++ toString number else toString number

/-- `f"{x:.2f}"`: the exact value rounded half-even to two places. -/
def formatTwoPlaces : Float64 → String
  | .finite value =>
      let scaled := value.num.natAbs * 100
      let quotient := scaled / value.den
      let rest := scaled % value.den
      let rounded :=
        if 2 * rest < value.den then quotient
        else if value.den < 2 * rest then quotient + 1
        else quotient + quotient % 2
      (if value < 0 then "-" else "") ++ toString (rounded / 100) ++ "." ++
        twoDigits (rounded % 100)
  | .posInf => "inf"
  | .negInf => "-inf"
  | .nan => "nan"

def surgeGridKey (lat lng : Float64) : String :=
  "surge:" ++ formatTwoPlaces lat ++ ":" ++ formatTwoPlaces lng

example : calculateFare (.finite 10 0) (.finite 15 (-1)) =
    some (.finite 2550 (-2)) := by
  decide +kernel

end RideHailing.Pricing
