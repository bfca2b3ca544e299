import LineMeasure.Caratheodory.Split

/-!
# Measurability of rays

A ray `(-∞, c)` splits an interval `[a, b)` in one of four ways: the interval is empty, lies in the
ray, lies outside it, or has `c` inside. The lengths of the two parts follow from the case. The ray
is measurable when on every test interval these lengths add up and agree with the values of the
functional.
-/

namespace LineMeasure.Caratheodory

/-- The position of `[a, b)` relative to a ray. -/
inductive RayCase where
  | empty
  | below
  | above
  | straddle
  deriving DecidableEq

namespace RayCase

/-- The name of the case. -/
def name : RayCase → String
  | empty => "EMPTY"
  | below => "BELOW"
  | above => "ABOVE"
  | straddle => "STRADDLE"

end RayCase

/-- The position of `[a, b)` relative to the ray below `c`. -/
def rayCase (c a b : Rat) : RayCase :=
  if b ≤ a then .empty
  else if b ≤ c then .below
  else if c ≤ a then .above
  else .straddle

/-- The lengths of the parts of `[a, b)` inside and outside the ray below `c`. -/
def rayLengths (c a b : Rat) : ENNRat × ENNRat :=
  match rayCase c a b with
  | .empty => (0, 0)
  | .below => (intervalLength a b, 0)
  | .above => (0, intervalLength a b)
  | .straddle => (intervalLength a c, intervalLength c b)

/-- All intervals between points of a grid around `c`, in either order. -/
def rayTests (cfg : Config) (c : Rat) : List Interval :=
  let pad := cfg.testGridPadding
  let points := [c - pad, c - pad / 2, c, c + pad / 2, c + pad]
  points.flatMap fun a => points.map (Interval.ico a)

/-- Whether the ray below `c` splits a half-open interval into parts whose lengths add up and are
the values of the functional. -/
def raySplits (μ : Functional) (c : Rat) (t : HalfOpen) : Except Error Bool := do
  let ray := RealSet.ofIntervals [.rayBelow c]
  let piece := RealSet.ofIntervals [t.toInterval]
  let (inside, outside) := rayLengths c t.left t.right
  if inside + outside ≠ t.length then return false
  if (← μ (piece ∩ ray)) ≠ inside then return false
  return decide ((← μ (piece \ ray)) = outside)

/-- Whether the ray below `c` is measurable on a list of test intervals, which have to be half-open;
the first failure ends the check. -/
def rayMeasurableOn (μ : Functional) (c : Rat) : List Interval → Except Error Bool
  | [] => .ok true
  | test :: rest =>
    match test.halfOpen? with
    | none => .error (.testInterval test)
    | some t => do
      if ← raySplits μ c t then rayMeasurableOn μ c rest else return false

/-- Whether the ray below `c` is measurable on the grid around `c`. -/
def isRayMeasurable (μ : Functional) (cfg : Config) (c : Rat) : Except Error Bool :=
  rayMeasurableOn μ c (rayTests cfg c)

end LineMeasure.Caratheodory
