import LineMeasure.Rational.Basic

/-!
# Binary floating point numbers

The numbers of the 64-bit binary format, held by their exact values. `round` takes a rational number
to the nearest number of the format, an exact half to the one with an even significand; numbers that
round past the largest one have no image.
-/

namespace LineMeasure

/-- A number of the 64-bit binary format; the value of a finite one is exact. -/
inductive Binary64 where
  | finite (value : Rat)
  | negativeZero
  | infinity (negative : Bool)
  | nan
  deriving DecidableEq

namespace Binary64
open Rational (power)

/-- The exponent of the largest power of the base that is not above a positive number. -/
def floorLog (base : Nat) (q : Rat) : Int :=
  let guess : Int := (Nat.toDigits base q.num.toNat).length - (Nat.toDigits base q.den).length
  if power base guess ≤ q then guess else guess - 1

/-- The nearest integer; a half goes to the even neighbour. -/
def nearestEven (q : Rat) : Int :=
  let rest := q - q.floor
  if rest < 1 / 2 then q.floor
  else if 1 / 2 < rest then q.floor + 1
  else if q.floor % 2 = 0 then q.floor else q.floor + 1

/-- The exponent of the last place of a positive number: 53 significant bits, none below
`2 ^ (-1074)`. -/
def lastPlace (q : Rat) : Int :=
  let exponent := floorLog 2 q - 52
  if exponent < -1074 then -1074 else exponent

/-- A positive number to the nearest one on the grid of the format, which has no upper end. -/
def roundPositive (q : Rat) : Rat :=
  let place := power 2 (lastPlace q)
  (nearestEven (q / place) : Rat) * place

/-- The nearest number of the format, unless that is past the largest one. -/
def round? (q : Rat) : Option Binary64 :=
  if q = 0 then some (.finite 0)
  else
    let magnitude := roundPositive (if q < 0 then -q else q)
    if power 2 1024 ≤ magnitude then none
    else if q < 0 then
      if magnitude = 0 then some .negativeZero else some (.finite (-magnitude))
    else some (.finite magnitude)

/-- The exact value of a finite number. -/
def value? : Binary64 → Option Rat
  | .finite value => some value
  | .negativeZero => some 0
  | .infinity _ | .nan => none

end Binary64
end LineMeasure
