import RideHailing.BinaryRounding
import RideHailing.DecimalArithmetic

/-!
# Domain records

The dataclasses of `models.py`.  Identifiers, usernames and hashes are strings
as in the source.  A coordinate is a double: a finite one is the exact rational
it denotes, and infinities and NaN are values of their own because the request
schema does not exclude them.
-/

namespace RideHailing

inductive Float64 where
  | finite (value : ℚ)
  | posInf
  | negInf
  | nan
deriving DecidableEq, Repr

namespace Float64

/-- The double nearest to a number.  Nothing that is computed with doubles here can leave
their range: a hundredth does not move the largest double, and distances are on the earth. -/
def ofRat (exact : ℚ) : Float64 :=
  .finite (Binary.nearest 53 (-1074) exact)

def neg : Float64 → Float64
  | .finite value => .finite (-value)
  | .posInf => .negInf
  | .negInf => .posInf
  | .nan => .nan

def add : Float64 → Float64 → Float64
  | .finite a, .finite b => ofRat (a + b)
  | .nan, _ => .nan
  | _, .nan => .nan
  | .posInf, .negInf => .nan
  | .negInf, .posInf => .nan
  | .posInf, _ => .posInf
  | _, .posInf => .posInf
  | .negInf, _ => .negInf
  | _, .negInf => .negInf

def sub (a b : Float64) : Float64 :=
  a.add b.neg

/-- Multiply by a positive number, and round once; dividing by a positive number is
multiplying by its inverse. -/
def times (factor : ℚ) : Float64 → Float64
  | .finite value => ofRat (value * factor)
  | other => other

/-- `int(value)`. -/
def truncate : Float64 → Except String Int
  | .finite value => .ok (value.num.tdiv value.den)
  | .nan => .error "ValueError"
  | _ => .error "OverflowError"

end Float64

/-- Microseconds since the epoch. -/
abbrev Timestamp := Int

inductive Role where
  | rider
  | driver
deriving DecidableEq, Repr

inductive RideStatus where
  | requested
  | matched
  | inProgress
  | completed
  | cancelled
deriving DecidableEq, Repr

namespace RideStatus

/-- `status.value`. -/
def value : RideStatus → String
  | .requested => "REQUESTED"
  | .matched => "MATCHED"
  | .inProgress => "IN_PROGRESS"
  | .completed => "COMPLETED"
  | .cancelled => "CANCELLED"

end RideStatus

structure User where
  username : String
  passwordHash : String
  id : String
  role : Role := .rider
  avgRating : Option ℚ := none
  ratingCount : Int := 0
deriving DecidableEq, Repr

structure Driver where
  userId : String
  vehicleType : String
  licensePlate : String
  isAvailable : Bool := false
  avgRating : Option ℚ := none
  ratingCount : Int := 0
deriving DecidableEq, Repr

structure Ride where
  riderId : String
  pickupLat : Float64
  pickupLng : Float64
  dropoffLat : Float64
  dropoffLng : Float64
  id : String
  driverId : Option String := none
  status : RideStatus := .requested
  estimatedFare : Option Decimal := none
  fare : Option Decimal := none
  requestedAt : Timestamp
  completedAt : Option Timestamp := none
  version : Int := 0
deriving DecidableEq, Repr

structure Rating where
  rideId : String
  fromUserId : String
  toUserId : String
  score : Int
  comment : Option String := none
  id : String
  createdAt : Timestamp
deriving DecidableEq, Repr

/-- `ACTIVE_RIDE_STATUSES` of the ride repository. -/
def activeRideStatuses : List RideStatus :=
  [.requested, .matched, .inProgress]

/-- `_ACTIVE_RIDE_STATUSES` of the driver service. -/
def servingRideStatuses : List RideStatus :=
  [.matched, .inProgress]

end RideHailing
