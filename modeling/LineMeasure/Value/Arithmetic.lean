import LineMeasure.Binary64.Arithmetic
import LineMeasure.Text.Order
import LineMeasure.Value.Operand

/-!
# Calculating with given values

Numbers of different kinds in one calculation. Integers stay integers as long as nothing is divided,
integers and rational numbers are calculated with exactly, and beside a floating point number both
become floating point numbers. Decimals go with each other and with integers, and are kept to 28
significant digits. An extended number goes with any number but a decimal. Texts and lists are
joined by sums and repeated by products. Everything else is no operand, and neither is a divisor
that is zero.
-/

namespace LineMeasure

/-- A number by its kind. -/
inductive Scalar where
  | integer (n : Int)
  | rational (q : Rat)
  | float (x : Binary64)
  | decimal (q : Rat)
  deriving DecidableEq

/-- An operation on two numbers of one kind, exact on decimals, which are rounded later. -/
structure Operation where
  integers : Int → Int → Except Error Scalar
  rationals : Rat → Rat → Except Error Rat
  floats : Binary64 → Binary64 → Except Error Binary64
  decimals : Rat → Rat → Except Error Rat

namespace Scalar

/-- The number as a value. -/
def toValue : Scalar → Value
  | integer n => .int n
  | rational q => .rational q
  | float x => .float x
  | decimal q => .decimal q

/-- The nearest floating point number to an exact one; numbers past the largest one have none. -/
def floatOfRat (q : Rat) : Except Error Binary64 :=
  match Binary64.round? q with
  | some x => .ok x
  | none => .error .overflow

/-- The number as a floating point number; decimals do not become one. -/
def toFloat : Scalar → Except Error Binary64
  | integer n => floatOfRat n
  | rational q => floatOfRat q
  | float x => .ok x
  | decimal _ => .error .operand

/-- The nearest number with 28 significant digits; a half goes to the even neighbour. -/
def roundDecimal (q : Rat) : Rat :=
  if q = 0 then 0
  else
    let unit := Rational.power 10 (Binary64.floorLog 10 (if q < 0 then -q else q) - 27)
    Binary64.nearestEven (q / unit) * unit

/-- The value of an operation. -/
def combine (op : Operation) (a b : Scalar) : Except Error Scalar :=
  match a, b with
  | integer m, integer n => op.integers m n
  | float x, b => do return float (← op.floats x (← b.toFloat))
  | a, float y => do return float (← op.floats (← a.toFloat) y)
  | decimal p, decimal q => do return decimal (roundDecimal (← op.decimals p q))
  | decimal p, integer n => do return decimal (roundDecimal (← op.decimals p n))
  | integer m, decimal q => do return decimal (roundDecimal (← op.decimals m q))
  | rational p, rational q => do return rational (← op.rationals p q)
  | rational p, integer n => do return rational (← op.rationals p n)
  | integer m, rational q => do return rational (← op.rationals m q)
  | decimal _, rational _ | rational _, decimal _ => .error .operand

/-- The number without its sign. -/
def abs : Scalar → Scalar
  | integer n => integer n.natAbs
  | rational q => rational (if q < 0 then -q else q)
  | float x => float x.abs
  | decimal q => decimal (roundDecimal (if q < 0 then -q else q))

/-- An integer power of a number. -/
def power (k : Int) : Scalar → Except Error Scalar
  | integer n => if 0 ≤ k then .ok (integer (Int.pow n k.toNat)) else negativePower n
  | rational q => do return rational (← exactPower q)
  | float x => do return float (← floatPower x)
  | decimal q => do return decimal (roundDecimal (← exactPower q))
where
  exactPower (q : Rat) : Except Error Rat :=
    if q = 0 ∧ k < 0 then .error .operand
    else .ok (if 0 ≤ k then Rat.pow q k.natAbs else 1 / Rat.pow q k.natAbs)
  floatPower (x : Binary64) : Except Error Binary64 :=
    if x.isZero ∧ k < 0 then .error .operand
    else
      match x.power? k with
      | some y => .ok y
      | none => .error .overflow
  negativePower (n : Int) : Except Error Scalar := do
    return float (← floatPower (← floatOfRat n))

end Scalar

namespace Operation

/-- An operation that keeps integers as integers and is exact on them and on rational numbers. -/
def ofExact (integers : Int → Int → Int) (exact : Rat → Rat → Rat)
    (floats : Binary64 → Binary64 → Binary64) : Operation :=
  ⟨fun m n => .ok (.integer (integers m n)), fun p q => .ok (exact p q),
    fun x y => .ok (floats x y), fun p q => .ok (exact p q)⟩

/-- The sum. -/
def sum : Operation :=
  ofExact (· + ·) (· + ·) Binary64.add

/-- The difference. -/
def difference : Operation :=
  ofExact (· - ·) (· - ·) Binary64.sub

/-- The product. -/
def product : Operation :=
  ofExact (· * ·) (· * ·) Binary64.mul

/-- What has to be there for an operation to have operands. -/
def require {α : Type} (found : Option α) : Except Error α :=
  match found with
  | some a => .ok a
  | none => .error .operand

/-- An exact operation, unless its divisor is zero. -/
def unlessZero (exact : Rat → Rat → Rat) (p q : Rat) : Except Error Rat :=
  if q = 0 then .error .operand else .ok (exact p q)

/-- The quotient. That of two integers is a floating point number. -/
def quotient : Operation where
  integers m n := do return .float (← Scalar.floatOfRat (← unlessZero (· / ·) m n))
  rationals := unlessZero (· / ·)
  floats x y := require (x.div? y)
  decimals := unlessZero (· / ·)

/-- The remainder of the division rounded down; for decimals, of the truncated one. -/
def remainder : Operation where
  integers m n := if n = 0 then .error .operand else .ok (.integer (m.fmod n))
  rationals := unlessZero fun p q => p - q * (p / q).floor
  floats x y := require (x.mod? y)
  decimals := unlessZero fun p q =>
    p - q * ((if p / q < 0 then -(-(p / q)).floor else (p / q).floor : Int) : Rat)

end Operation

namespace Value

/-- The value as a number, unless it is an extended one. -/
def scalar? : Value → Option Scalar
  | bool b => some (.integer (if b then 1 else 0))
  | int n => some (.integer n)
  | rational q => some (.rational q)
  | float x => some (.float x)
  | decimal q => some (.decimal q)
  | _ => none

/-- Whether the value is an extended number. -/
def isExtended : Value → Bool
  | extended _ => true
  | _ => false

/-- The value of an operation on two numbers. -/
def calculate (op : Operation) (a b : Value) : Except Error Value := do
  return (← Scalar.combine op (← Operation.require a.scalar?)
    (← Operation.require b.scalar?)).toValue

/-- The sum of two values. -/
def plus (a b : Value) : Except Error Value :=
  match a, b with
  | text s, text t => .ok (text (s ++ t))
  | list, list => .ok list
  | a, b => if a.isExtended || b.isExtended then extended <$> a.add b else calculate .sum a b

/-- The difference of two values. -/
def minus (a b : Value) : Except Error Value :=
  if a.isExtended || b.isExtended then extended <$> a.sub b else calculate .difference a b

/-- A text or a list so many times. The number has to fit into 64 bits, and no text grows beyond
`2 ^ 31` characters. -/
def repeated (a : Value) (n : Int) : Except Error Value :=
  let fits := -9223372036854775808 ≤ n ∧ n < 9223372036854775808
  match a with
  | text s =>
    let count := if s.isEmpty then 0 else n.toNat
    if fits ∧ s.length * count ≤ 2147483648 then .ok (text (String.join (List.replicate count s)))
    else .error .overflow
  | list => if fits then .ok list else .error .overflow
  | _ => .error .operand

/-- The product of two values. -/
def times (a b : Value) : Except Error Value :=
  if a.isExtended || b.isExtended then extended <$> a.mul b
  else
    match a.scalar?, b.scalar? with
    | none, some (.integer n) => a.repeated n
    | some (.integer n), none => b.repeated n
    | _, _ => calculate .product a b

/-- The quotient of two values. -/
def dividedBy (a b : Value) : Except Error Value :=
  calculate .quotient a b

/-- The remainder of two values. -/
def modulo (a b : Value) : Except Error Value :=
  calculate .remainder a b

/-- An integer power of a value. -/
def power (a : Value) (k : Int) : Except Error Value := do
  return (← (← Operation.require a.scalar?).power k).toValue

/-- The value without its sign. -/
def magnitude (a : Value) : Except Error Value := do
  return (← Operation.require a.scalar?).abs.toValue

/-- The place of a value on the line of all numbers, infinities included. -/
def number? : Value → Option Number
  | bool b => some (.exact (if b then 1 else 0))
  | int n => some (.exact n)
  | rational q | decimal q => some (.exact q)
  | float x => some x.toNumber
  | specialDecimal (.infinity negative) => some (.infinity negative)
  | _ => none

/-- Whether a value lies below another one. -/
def isBelow (a b : Value) : Except Error Bool :=
  match a, b with
  | text s, text t => .ok (s != t && Text.le s t)
  | a, b => do
    if a.isExtended || b.isExtended then compare .lt a b
    else return (← Operation.require a.number?).isBelow (← Operation.require b.number?)

/-- Whether a value lies at zero or above it. -/
def isNonnegative (a : Value) : Except Error Bool := do
  if a.isExtended then return true
  else
    match ← Operation.require a.number? with
    | .nan => return false
    | x => return !x.isBelow (.exact 0)

/-- The first of two values, unless the second lies below it. -/
def least (a b : Value) : Except Error Value := do
  return if ← isBelow b a then b else a

/-- The first of two values, unless it lies below the second. -/
def greatest (a b : Value) : Except Error Value := do
  return if ← isBelow a b then b else a

theorem plus_rational (p q : Rat) : plus (rational p) (rational q) = .ok (rational (p + q)) :=
  rfl

theorem minus_rational (p q : Rat) : minus (rational p) (rational q) = .ok (rational (p - q)) :=
  rfl

theorem times_rational (p q : Rat) : times (rational p) (rational q) = .ok (rational (p * q)) :=
  rfl

theorem calculate_rational (op : Operation) (p q : Rat) :
    calculate op (rational p) (rational q) = (op.rationals p q).map rational := by
  simp only [calculate, scalar?, Operation.require, Scalar.combine, bind, Except.bind,
    pure, Except.pure]
  cases op.rationals p q <;> rfl

/-- Rational numbers are divided exactly, unless the divisor is zero. -/
theorem dividedBy_rational {p q : Rat} (h : q ≠ 0) :
    dividedBy (rational p) (rational q) = .ok (rational (p / q)) := by
  rw [dividedBy, calculate_rational]
  exact congrArg (Except.map rational) (if_neg h)

theorem isNonnegative_rational (q : Rat) : isNonnegative (rational q) = .ok (decide (0 ≤ q)) := by
  change Except.ok (!decide (q < 0)) = _
  rw [← decide_not, decide_eq_decide.2 Rat.not_lt]

/-- A floating point number decides the kind of the result, and so does the division of integers. -/
example :
    (plus (rational 1) (float (.finite 2))).toOption = some (float (.finite 3)) ∧
      (dividedBy (int 1) (int 2)).toOption = some (float (.finite (1 / 2))) ∧
      (dividedBy (rational 1) (int 2)).toOption = some (rational (1 / 2)) ∧
      (dividedBy (rational 1) (int 0)).toOption = none := by
  decide +kernel

end Value
end LineMeasure
