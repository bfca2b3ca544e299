import LineMeasure.ENNRat.Basic
import LineMeasure.Interval.HalfOpen
import LineMeasure.RealSet.Basic

/-!
# The length functional

The length of `[a, b)` is `b - a`, and zero when the ends are in the other order. A set that is not
one half-open interval has infinite length, the empty set apart.
-/

namespace LineMeasure

/-- The length of `[a, b)`. -/
def intervalLength (a b : Rat) : ENNRat :=
  .ofPositivePart (b - a)

namespace HalfOpen

/-- The length of a half-open interval. -/
def length (t : HalfOpen) : ENNRat :=
  .ofPositivePart (t.right - t.left)

end HalfOpen

/-- The length of an interval, infinite unless it is half-open. -/
def termLength (i : Interval) : ENNRat :=
  match i.halfOpen? with
  | some t => intervalLength t.left t.right
  | none => .infinite

/-- The length of a set. -/
def length (s : RealSet) : ENNRat :=
  match s.components with
  | [] => 0
  | [c] => termLength c
  | _ => .infinite

end LineMeasure
