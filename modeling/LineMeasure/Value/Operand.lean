import LineMeasure.Error

/-!
# Extended numbers beside plain numbers

An extended number may be added to, multiplied by and compared with an integer, a rational number or
a floating point number; any other value is no operand. Comparisons follow the extended line, on
which negative numbers and minus infinity lie below every extended number. Not-a-number equals
nothing, and asking for its place in the order is an error.
-/

namespace LineMeasure

/-- A plain number: an exact one, one of the two infinities, or not-a-number. -/
inductive Number where
  | exact (q : Rat)
  | infinity (negative : Bool)
  | nan
  deriving DecidableEq

/-- What an extended number can be combined with. -/
inductive Operand where
  | extended (e : ENNRat)
  | number (x : Number)
  deriving DecidableEq

/-- The four comparisons of an order. -/
inductive Comparison where
  | lt
  | le
  | gt
  | ge
  deriving DecidableEq

namespace Binary64

/-- A floating point number by its exact value. -/
def toNumber : Binary64 → Number
  | finite q => .exact q
  | negativeZero => .exact 0
  | infinity negative => .infinity negative
  | nan => .nan

end Binary64

namespace Comparison

/-- The comparison with its two sides exchanged. -/
def swap : Comparison → Comparison
  | lt => gt
  | le => ge
  | gt => lt
  | ge => le

/-- The comparison that a strict order and equality decide. -/
def decideBy (below equal : Bool) : Comparison → Bool
  | lt => below
  | le => below || equal
  | gt => !below && !equal
  | ge => !below

end Comparison

namespace Number

/-- A number as an extended one; negative numbers, infinities and not-a-number are refused. -/
def toENNRat : Number → Except Error ENNRat
  | exact q => ENNRat.ofRat q
  | infinity negative => (Value.float (.infinity negative)).ennrat
  | nan => (Value.float .nan).ennrat

/-- Whether a number lies below another one. Not-a-number lies nowhere. -/
def isBelow : Number → Number → Bool
  | nan, _ | _, nan => false
  | exact p, exact q => decide (p < q)
  | infinity s, infinity t => s && !t
  | infinity s, exact _ => s
  | exact _, infinity t => !t

end Number

namespace ENNRat

/-- Whether an extended number equals a plain one. -/
def equalsNumber (e : ENNRat) : Number → Bool
  | .exact q => e.toRat? == some q
  | .infinity negative => !negative && e.isInfinite
  | .nan => false

/-- Whether an extended number lies below a plain one. -/
def isBelowNumber (e : ENNRat) : Number → Except Error Bool
  | .exact q => .ok (e.toRat?.any fun value => decide (value < q))
  | .infinity negative => .ok (!negative && !e.isInfinite)
  | .nan => do
    let _ ← Number.toENNRat .nan
    return false

/-- A comparison of an extended number with a plain one. -/
def compareNumber (c : Comparison) (e : ENNRat) (x : Number) : Except Error Bool := do
  return c.decideBy (← e.isBelowNumber x) (e.equalsNumber x)

/-- The nearest floating point number to an extended number. -/
def toFloat : ENNRat → Except Error Binary64
  | finite value _ =>
    match Binary64.round? value with
    | some x => .ok x
    | none => .error .overflow
  | infinite => .ok (.infinity false)

/-- A comparison of two extended numbers. -/
def compare (c : Comparison) (a b : ENNRat) : Bool :=
  c.decideBy (decide (a < b)) (decide (a = b))

end ENNRat

namespace Operand

/-- The operand as an extended number. -/
def toENNRat : Operand → Except Error ENNRat
  | extended e => .ok e
  | number x => x.toENNRat

end Operand

namespace Value

/-- A value as an operand. -/
def operand? : Value → Option Operand
  | extended e => some (.extended e)
  | int n => some (.number (.exact n))
  | rational q => some (.number (.exact q))
  | float x => some (.number x.toNumber)
  | _ => none

/-- The operands of a sum or product, one of which is an extended number, as extended numbers. -/
def operands (a b : Value) : Except Error (ENNRat × ENNRat) :=
  match a.operand?, b.operand? with
  | some (.extended a), some b => return (a, ← b.toENNRat)
  | some (.number a), some (.extended b) => return (← a.toENNRat, b)
  | _, _ => .error .operand

/-- The sum of two operands. -/
def add (a b : Value) : Except Error ENNRat := do
  let (a, b) ← operands a b
  return a + b

/-- The product of two operands. -/
def mul (a b : Value) : Except Error ENNRat := do
  let (a, b) ← operands a b
  return a * b

/-- The difference of an extended number and an operand. -/
def sub : Value → Value → Except Error ENNRat
  | extended a, b => do
    let (a, b) ← operands (.extended a) b
    return a - b
  | _, _ => .error .operand

/-- Whether two values are equal, one of which is an extended number. -/
def equals (a b : Value) : Bool :=
  match a.operand?, b.operand? with
  | some (.extended a), some (.extended b) => decide (a = b)
  | some (.extended a), some (.number x) => a.equalsNumber x
  | some (.number x), some (.extended b) => b.equalsNumber x
  | _, _ => false

/-- A comparison of two operands, one of which is an extended number. -/
def compare (c : Comparison) (a b : Value) : Except Error Bool :=
  match a.operand?, b.operand? with
  | some (.extended a), some (.extended b) => .ok (a.compare c b)
  | some (.extended a), some (.number x) => a.compareNumber c x
  | some (.number x), some (.extended b) => b.compareNumber c.swap x
  | _, _ => .error .operand

/-- The larger of two operands as it was given; the first one unless the second is above it. -/
def larger (a b : Value) : Except Error Value := do
  return if ← compare .gt b a then b else a

/-- The smaller of two operands as it was given; the first one unless the second is below it. -/
def smaller (a b : Value) : Except Error Value := do
  return if ← compare .lt b a then b else a

/-- Whether the nearest floating point number to a value is finite. Numbers past the largest one are
refused, except for decimals, which become infinite; a signaling decimal has no nearest one. -/
def isFinite : Value → Except Error Bool
  | bool _ => .ok true
  | int n => if (Binary64.round? n).isSome then .ok true else .error .overflow
  | rational q | extended (.finite q _) =>
    if (Binary64.round? q).isSome then .ok true else .error .overflow
  | decimal q => .ok (Binary64.round? q).isSome
  | float x => .ok x.value?.isSome
  | specialDecimal (.nan true _) => .error .signaling
  | specialDecimal _ | extended .infinite => .ok false
  | _ => .error .operand

end Value
end LineMeasure
