import LineMeasure.Binary64.Basic

/-!
# The shortest decimal of a floating point number

A floating point number is written with the fewest significant digits that read back to it; of the
decimals with that many digits, the nearest one is taken. `roundsTo` describes the numbers that read
back, and `shortest` looks for the first decimal grid that has one of them next to the value.
-/

namespace LineMeasure.Binary64
open Rational (power)

/-- Whether a number `q` lies among the reals that round to the positive number `value` of the
format. The two ends of that range belong to it when the significand is even; below a power of two
the grid is twice as fine. -/
def roundsTo (value q : Rat) : Bool :=
  let place := power 2 (lastPlace value)
  let significand := (value / place).floor
  let below := if significand = 4503599627370496 && lastPlace value ≠ -1074 then place / 4
    else place / 2
  let above := place / 2
  if significand % 2 = 0 then value - below ≤ q && q ≤ value + above
  else value - below < q && q < value + above

/-- The nearest multiple of `unit` to `value`, as a count of units, among those that round to it. -/
def nearestMultiple? (value unit : Rat) : Option Int :=
  let low := (value / unit).floor
  let high := low + 1
  match roundsTo value (low * unit), roundsTo value (high * unit) with
  | false, false => none
  | true, false => some low
  | false, true => some high
  | true, true =>
    if value - low * unit < high * unit - value then some low
    else if high * unit - value < value - low * unit then some high
    else if low % 2 = 0 then some low else some high

/-- The digits of the shortest decimal of a positive number, and the exponent of ten of the last
one. Seventeen digits are enough for every number of the format. -/
def shortest (value : Rat) : Nat × Int :=
  let top := floorLog 10 value
  let found := (List.range 17).findSome? fun (n : Nat) =>
    let exponent := top - n
    (nearestMultiple? value (power 10 exponent)).map fun digits => (digits.toNat, exponent)
  found.getD (0, 0)

/-- Digits with their decimal point: positional from `0.0001` up to below `10 ^ 16`, and otherwise
with an exponent of at least two digits. -/
def place (digits : List Char) (exponent : Int) : String :=
  let top := exponent + digits.length - 1
  if top < -4 ∨ 16 ≤ top then
    let mantissa := match digits with
      | d :: d' :: rest => String.ofList (d :: '.' :: d' :: rest)
      | ds => String.ofList ds
    let size := toString top.natAbs
    mantissa ++ "e" ++ (if top < 0 then "-" else "+") ++
      (if size.length < 2 then "0" else "") ++ size
  else if top < 0 then
    "0." ++ String.ofList (List.replicate (-top - 1).toNat '0' ++ digits)
  else if digits.length ≤ top.toNat + 1 then
    String.ofList (digits ++ List.replicate (top.toNat + 1 - digits.length) '0') ++ ".0"
  else
    String.ofList (digits.take (top.toNat + 1)) ++ "." ++
      String.ofList (digits.drop (top.toNat + 1))

/-- The text of a positive finite number. -/
def textOfPositive (value : Rat) : String :=
  let (digits, exponent) := shortest value
  let written := Nat.toDigits 10 digits
  let kept := (written.reverse.dropWhile (· == '0')).reverse
  place kept (exponent + (written.length - kept.length : Nat))

/-- The text of a number of the format. -/
def text : Binary64 → String
  | .finite value =>
    if value = 0 then "0.0"
    else if value < 0 then "-" ++ textOfPositive (-value)
    else textOfPositive value
  | .negativeZero => "-0.0"
  | .infinity true => "-inf"
  | .infinity false => "inf"
  | .nan => "nan"

end LineMeasure.Binary64
