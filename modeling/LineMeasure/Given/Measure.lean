import LineMeasure.Compactness.Certificate
import LineMeasure.Given.Set
import LineMeasure.Lebesgue
import LineMeasure.Report
import LineMeasure.Limit.Superlevel
import LineMeasure.Subadditivity
import LineMeasure.Value.Arithmetic

/-!
# Measures of given values

The operations of the library on values as they are given. Each reads its numbers first, in a fixed
order and under fixed names, and then does its work on exact numbers.
-/

namespace LineMeasure.Given

/-- Whether a given number is a member of an interval. -/
def intervalContains (i : Interval) (x : Value) : Except Error Bool := do
  return decide ((← x.real "x") ∈ i)

/-- An interval moved by a given number. -/
def intervalShift (i : Interval) (t : Value) : Except Error Interval := do
  return i.shift (← t.real "t")

/-- Whether a given number is a member of a set. -/
def setContains (s : RealSet) (x : Value) : Except Error Bool := do
  return decide ((← x.real "x") ∈ s)

/-- A set moved by a given number, which is looked at for every piece, so not for the empty set. -/
def setShift (s : RealSet) (t : Value) : Except Error RealSet :=
  if s.isEmpty then .ok s else do return s.shift (← t.real "t")

/-- The length of `[a, b)`. -/
def intervalLength (a b : Value) : Except Error ENNRat := do
  let b ← b.real "b"
  let a ← a.real "a"
  return LineMeasure.intervalLength a b

/-- The point between two others at which the line through a value that is not negative and a
negative one meets zero. -/
def crossing (left : Rat) (leftValue : Value) (right : Rat) (rightValue : Value) :
    Except Error Value := do
  let scaled ← leftValue.times (.rational (right - left))
  let step ← scaled.dividedBy (← leftValue.minus rightValue)
  Value.plus (.rational left) step

/-- The last point at which given values are not negative, from points with their values, from right
to left. -/
def lastNonnegative : List (Rat × Value) → Except Error (Option Value)
  | (right, rightValue) :: (left, leftValue) :: rest => do
    if ← rightValue.isNonnegative then return some (.rational right)
    if ← leftValue.isNonnegative then return some (← crossing left leftValue right rightValue)
    lastNonnegative ((left, leftValue) :: rest)
  | [(p, v)] => do return if ← v.isNonnegative then some (.rational p) else none
  | [] => .ok none

/-- The largest point of `[low, high]` at which a function with given values is not negative. It is
exact when the values are. -/
def superlevelSupremum (f : Rat → Except Error Value) (breakpoints : List Rat) (low high : Rat) :
    Except Error (Option Value) := do
  if high < low then throw (.order low high)
  let values ← (Limit.segmentEnds breakpoints low high).mapM fun p => return (p, ← f p)
  lastNonnegative values.reverse

/-- The limit of a family along given probes. -/
def affineLimit (f : Rat → Except Error Value) (probes : List Value) : Except Error ENNRat := do
  Limit.affineLimit (f · >>= Value.ennrat) (← probes.mapM (Value.real "probe"))

/-- The length that intervals cover below `x`, and from `a` on if it is given. -/
def coveredLength (terms : List HalfOpen) (x : Value) (a : Option Value) : Except Error Rat := do
  let x ← x.real "x"
  match a with
  | none => return Compactness.coveredLength terms x none
  | some a => return Compactness.coveredLength terms x (some (← a.real "a"))

/-- How far intervals make progress from `a` to `b`, as a supremum. -/
def progressSupremum (a b : Value) (terms : List HalfOpen) : Except Error Rat := do
  let a ← a.real "a"
  let b ← b.real "b"
  Compactness.progressSupremum a b terms

/-- How far intervals make progress from `a` to `b`, in one pass. -/
def firstUncovered (a b : Value) (terms : List HalfOpen) : Except Error Rat := do
  let a ← a.real "a"
  let b ← b.real "b"
  return Compactness.firstUncovered a b terms

/-- The certificate of a cover for `[a, b)`. -/
def certify (cfg : Config) (a b : Value) (c : Cover) : Except Error Certificate := do
  let a ← a.real "a"
  let b ← b.real "b"
  Compactness.certify cfg a b c

/-- Monotonicity for two given sets. -/
def monotonicity (cfg : Config) (s t : GivenSet) : Except Error Bool := do
  let s ← s.toRealSet
  let t ← t.toRealSet
  checkMonotonicity cfg s t

/-- The position of `[a, b)` relative to the ray below `c`, and the lengths of its two parts. -/
def raySplit (c a b : Value) : Except Error (Caratheodory.RayCase × ENNRat × ENNRat) := do
  let c ← c.real "c"
  let a ← a.real "a"
  let b ← b.real "b"
  return (Caratheodory.rayCase c a b, Caratheodory.rayLengths c a b)

/-- The test intervals for the ray below `c`. -/
def rayTests (cfg : Config) (c : Value) : Except Error (List Interval) := do
  return Caratheodory.rayTests cfg (← c.real "c")

/-- Whether the ray below `c` is measurable, on given test intervals or on its own grid. -/
def isRayMeasurable (μ : Caratheodory.Functional) (cfg : Config) (c : Value)
    (tests : Option (List Interval)) : Except Error Bool := do
  let c ← c.real "c"
  Caratheodory.rayMeasurableOn μ c (tests.getD (Caratheodory.rayTests cfg c))

/-- Whether the rays below given points are measurable. -/
def raysMeasurable (μ : Caratheodory.Functional) (cfg : Config) (points : List Value) :
    Except Error Bool :=
  Lebesgue.raysMeasurable μ cfg (points.map (Value.real "c"))

/-- The measure of the interval of a record. -/
def measureInterval (tests : Lebesgue.Tests) (cfg : Config) (r : IntervalRecord) :
    Except Error ENNRat := do
  Lebesgue.measureInterval tests cfg (← interval r)

/-- The measure of `(a, b)`. -/
def measureOpen (tests : Lebesgue.Tests) (cfg : Config) (a b : Value) : Except Error ENNRat := do
  let a ← a.real "a"
  let b ← b.real "b"
  Lebesgue.measureOpen tests cfg a b

/-- The measure of one point. -/
def measureSingleton (tests : Lebesgue.Tests) (cfg : Config) (a : Value) : Except Error ENNRat := do
  Lebesgue.measureSingleton tests cfg (← a.real "a")

/-- The measures of `[a, m)` and `[m, b)`. -/
def measureSplit (tests : Lebesgue.Tests) (cfg : Config) (a m b : Value) :
    Except Error (ENNRat × ENNRat) := do
  let a ← a.real "a"
  let m ← m.real "m"
  let b ← b.real "b"
  Lebesgue.measureSplit tests cfg a m b

end LineMeasure.Given
