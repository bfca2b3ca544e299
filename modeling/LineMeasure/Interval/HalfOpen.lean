import LineMeasure.Interval.Basic

/-!
# Half-open intervals

Intervals `[left, right)` with finite ends, the only ones that a cover is made of. The interval is
empty when `right` is not above `left`.
-/

namespace LineMeasure

/-- The interval `[left, right)`. -/
structure HalfOpen where
  left : Rat
  right : Rat
  deriving DecidableEq

namespace HalfOpen

/-- The empty interval at zero. -/
def empty : HalfOpen :=
  ⟨0, 0⟩

/-- The half-open interval as an interval. -/
def toInterval (t : HalfOpen) : Interval :=
  .ico t.left t.right

/-- The distance from the left to the right end, zero if they are in the other order. -/
def width (t : HalfOpen) : Rat :=
  Rational.positivePart (t.right - t.left)

/-- The numbers from the left end on and below the right one. -/
theorem mem_toInterval {t : HalfOpen} {x : Rat} :
    x ∈ t.toInterval ↔ t.left ≤ x ∧ x < t.right := by
  simp only [toInterval, Interval.ico, Interval.mem_iff, Interval.inLower_some,
    Interval.inUpper_some]
  grind [Bound.IsBelow, Bound.IsAbove]

end HalfOpen

namespace Interval

/-- The interval as a half-open one, when it has that form. -/
def halfOpen? : Interval → Option HalfOpen
  | ⟨some ⟨a, true⟩, some ⟨b, false⟩⟩ => some ⟨a, b⟩
  | _ => none

/-- Whether the interval has the form `[a, b)` with finite ends. -/
def isHalfOpen (i : Interval) : Bool :=
  i.halfOpen?.isSome

/-- The half-open interval between the ends of a bounded interval. -/
def ends? : Interval → Option HalfOpen
  | ⟨some l, some u⟩ => some ⟨l.point, u.point⟩
  | _ => none

theorem halfOpen?_eq_some_iff {i : Interval} {t : HalfOpen} :
    i.halfOpen? = some t ↔ i = t.toInterval := by
  rcases i with ⟨_ | ⟨a, _ | _⟩, _ | ⟨b, _ | _⟩⟩ <;> rcases t with ⟨c, d⟩ <;>
    simp [halfOpen?, HalfOpen.toInterval, ico]

end Interval
end LineMeasure
