import LineMeasure.OuterMeasure

/-!
# The criterion of measurability

A set `e` is measurable for a functional when it splits every test set additively: the values of the
part inside `e` and of the part outside add up to the value of the test set. The criterion is
checked on a family of test sets, either a given one or the line, the set, its complement and the
intervals on a grid around the break points of the set.
-/

namespace LineMeasure.Caratheodory

/-- A functional on sets, such as the outer measure. -/
abbrev Functional : Type :=
  RealSet → Except Error ENNRat

/-- How a set splits a test set. -/
structure Split where
  testSet : RealSet
  testMeasure : ENNRat
  inside : ENNRat
  outside : ENNRat
  deriving DecidableEq

namespace Split

/-- Whether the two parts add up to the whole. -/
def additive (s : Split) : Bool :=
  decide (s.testMeasure = s.inside + s.outside)

end Split

/-- The split of the test set `test` by `e`. -/
def split (μ : Functional) (test e : RealSet) : Except Error Split := do
  return ⟨test, ← μ test, ← μ (test ∩ e), ← μ (test \ e)⟩

/-- The middles between neighbours of a list. -/
def midpoints : List Rat → List Rat
  | p :: q :: rest => (p + q) / 2 :: midpoints (q :: rest)
  | _ => []

/-- The break points of a set and the middles between them, with a margin on both sides. A set
without break points has the grid of the point zero. -/
def grid (cfg : Config) (e : RealSet) : List Rat :=
  let points := if e.breakpoints.isEmpty then [0] else e.breakpoints
  let pad := cfg.testGridPadding
  Rational.increasing
    (points ++ midpoints points ++ [points.head?.getD 0 - pad, points.getLast?.getD 0 + pad])

/-- The intervals `[p, q)` between points of an increasing list. -/
def intervalsBetween : List Rat → List Interval
  | [] => []
  | p :: rest => rest.map (Interval.ico p) ++ intervalsBetween rest

/-- The family of test sets for a set. -/
def defaultTests (cfg : Config) (e : RealSet) : List RealSet :=
  [.line, e, e.complement] ++ (intervalsBetween (grid cfg e)).map fun c => .ofIntervals [c]

/-- Whether a set splits all test sets of a list additively; the first failure ends the check. -/
def splitsAll (μ : Functional) (e : RealSet) : List (Except Error RealSet) → Except Error Bool
  | [] => .ok true
  | test :: rest => do
    if (← split μ (← test) e).additive then splitsAll μ e rest else return false

/-- Whether a set passes the criterion on its family of test sets. -/
def isMeasurable (μ : Functional) (cfg : Config) (e : RealSet) : Except Error Bool :=
  splitsAll μ e ((defaultTests cfg e).map .ok)

/-- Nothing, when the set passes the criterion. -/
def requireMeasurable (μ : Functional) (cfg : Config) (e : RealSet) : Except Error Unit := do
  if !(← isMeasurable μ cfg e) then throw (.notMeasurable e)

/-- The complement of a measurable set. -/
def measurableComplement (μ : Functional) (cfg : Config) (e : RealSet) : Except Error RealSet := do
  requireMeasurable μ cfg e
  return e.complement

/-- The union of measurable sets, which has to be measurable too. -/
def measurableUnion (μ : Functional) (cfg : Config) (sets : List RealSet) :
    Except Error RealSet := do
  for e in sets do
    requireMeasurable μ cfg e
  requireMeasurable μ cfg (.unionOf sets)
  return .unionOf sets

end LineMeasure.Caratheodory
