import LineMeasure.Binary64.Basic

/-!
# Calculating with floating point numbers

Sums, products, quotients, remainders and integer powers in the 64-bit binary format. The exact
result is taken to the nearest number of the format, and past the largest one to infinity.
Infinities and zeros keep their signs, and what has no value is not-a-number. Nothing is divided by
zero.
-/

namespace LineMeasure.Binary64

/-- The nearest number of the format; past the largest one it is infinity. -/
def ofRat (q : Rat) : Binary64 :=
  (round? q).getD (.infinity (decide (q < 0)))

/-- Whether the sign is minus, that of zeros and infinities included. -/
def isNegative : Binary64 → Bool
  | finite value => decide (value < 0)
  | negativeZero => true
  | infinity negative => negative
  | nan => false

/-- Whether the number is one of the two zeros. -/
def isZero (x : Binary64) : Bool :=
  x.value? == some 0

/-- The number with the other sign. -/
def neg : Binary64 → Binary64
  | finite value => if value = 0 then negativeZero else finite (-value)
  | negativeZero => finite 0
  | infinity negative => infinity !negative
  | nan => nan

/-- The number without its sign. -/
def abs (x : Binary64) : Binary64 :=
  if x.isNegative then x.neg else x

/-- A number with a given sign. -/
def withSign (negative : Bool) (x : Binary64) : Binary64 :=
  if negative then x.abs.neg else x.abs

/-- The sum. Infinities of different signs have none. -/
def add (x y : Binary64) : Binary64 :=
  match x, y with
  | nan, _ | _, nan => nan
  | infinity s, infinity t => if s = t then infinity s else nan
  | infinity s, _ | _, infinity s => infinity s
  | negativeZero, negativeZero => negativeZero
  | x, y => ofRat ((x.value?.getD 0) + (y.value?.getD 0))

/-- The difference. -/
def sub (x y : Binary64) : Binary64 :=
  x.add y.neg

/-- The product. An infinity and a zero have none. -/
def mul (x y : Binary64) : Binary64 :=
  match x.value?, y.value? with
  | some p, some q => (ofRat (p * q)).withSign (x.isNegative != y.isNegative)
  | _, _ =>
    if x = nan || y = nan || x.isZero || y.isZero then nan
    else infinity (x.isNegative != y.isNegative)

/-- The quotient by a number that is not zero. Two infinities have none. -/
def div? (x y : Binary64) : Option Binary64 :=
  if y.isZero then none
  else
    some <| match x, y with
      | nan, _ | _, nan | infinity _, infinity _ => nan
      | infinity s, y => infinity (s != y.isNegative)
      | x, infinity t => (finite 0).withSign (x.isNegative != t)
      | x, y =>
        (ofRat ((x.value?.getD 0) / (y.value?.getD 0))).withSign (x.isNegative != y.isNegative)

/-- The remainder that has the sign of the divisor: the one of truncated division, which is exact,
and where that one has the other sign, its rounded sum with the divisor. -/
def mod? (x y : Binary64) : Option Binary64 :=
  if y.isZero then none
  else
    some <| match x, y with
      | nan, _ | _, nan | infinity _, _ => nan
      | x, infinity t =>
        if x.isZero then (finite 0).withSign t else if x.isNegative = t then x else infinity t
      | x, y =>
        let p := x.value?.getD 0
        let q := y.value?.getD 0
        let rest := p - q * ((if p / q < 0 then -(-(p / q)).floor else (p / q).floor : Int) : Rat)
        if rest = 0 then (finite 0).withSign y.isNegative
        else if decide (rest < 0) = y.isNegative then finite rest
        else ofRat (rest + q)

/-- An integer power. Zeros have no negative powers, finite numbers none past the largest number. -/
def power? (x : Binary64) (k : Int) : Option Binary64 :=
  let odd := k % 2 = 1
  if k = 0 then some (finite 1)
  else
    match x with
    | nan => some nan
    | infinity s => some ((if 0 < k then infinity false else finite 0).withSign (s && odd))
    | x =>
      if x.isZero && k < 0 then none
      else
        let p := Rat.pow (x.value?.getD 0) k.natAbs
        (round? (if 0 < k then p else 1 / p)).map (·.withSign (x.isNegative && odd))

/-- Sums and quotients are rounded, and zeros keep their signs. -/
example :
    (finite 1).div? (finite 3) = some (finite (mkRat 6004799503160661 18014398509481984)) ∧
      (finite 1).add (finite (-1)) = finite 0 ∧ negativeZero.mul (finite 2) = negativeZero ∧
      (finite (-1)).mod? (finite 3) = some (finite 2) := by
  decide +kernel

end LineMeasure.Binary64
