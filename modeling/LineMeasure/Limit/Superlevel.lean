import LineMeasure.Error

/-!
# The last point of a superlevel set

For a function that is affine between neighbouring break points, the largest point of an interval at
which it is not negative. The break points inside the interval, with its two ends, cut it into
segments; these are searched from right to left, and the first change of sign is located on its
segment.
-/

namespace LineMeasure.Limit

/-- The ends of an interval and the break points inside it, in increasing order. -/
def segmentEnds (breakpoints : List Rat) (low high : Rat) : List Rat :=
  Rational.increasing (low :: high :: breakpoints.filter fun p => low < p && p < high)

/-- The root of the affine function through two points, between a value that is not negative and a
negative one. -/
def rootBetween (left leftValue right rightValue : Rat) : Rat :=
  left + leftValue * (right - left) / (leftValue - rightValue)

/-- The largest point at which the function is not negative, among segments that are given by their
ends from right to left. -/
def lastNonnegative (f : Rat → Rat) : List Rat → Option Rat
  | right :: left :: rest =>
    if 0 ≤ f right then some right
    else if 0 ≤ f left then some (rootBetween left (f left) right (f right))
    else lastNonnegative f (left :: rest)
  | [p] => if 0 ≤ f p then some p else none
  | [] => none

/-- The largest point of `[low, high]` at which the function is not negative, if there is one. -/
def superlevelSupremum (f : Rat → Rat) (breakpoints : List Rat) (low high : Rat) :
    Except Error (Option Rat) :=
  if high < low then .error (.order low high)
  else .ok (lastNonnegative f (segmentEnds breakpoints low high).reverse)

end LineMeasure.Limit
