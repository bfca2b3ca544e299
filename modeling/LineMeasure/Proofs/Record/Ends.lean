import LineMeasure.Proofs.Record.RoundTrip

/-!
# Ends as two fields of a record

A record holds an end in two fields, its point and its flag, and so a record may close an infinite
end, which no interval does. The ends of intersections and of merged intervals can be chosen among
such fields as well. From the fields of intervals this gives the fields of the ends that are meant
(`inner_above`, `inner_below`, `outerRight_ofEnd`), and a record that is made of the fields of two
ends is read as the interval between them (`toInterval_ofEnds`).
-/

namespace LineMeasure

/-- An end as a record holds it: its point, which an infinite end does not have, and its flag. -/
structure EndFields where
  point : Option Rat
  closed : Bool
  deriving DecidableEq

namespace EndFields

/-- The fields of an end. -/
def ofEnd (e : Option Bound) : EndFields :=
  ⟨e.map (·.point), e.any (·.closed)⟩

/-- Of two ends on one side the one that leaves out more: an infinite end gives way, of two points
the one counts that lies `further` inside, and an end at one point is closed when both are. -/
def inner (further : Rat → Rat → Prop) [DecidableRel further] (a b : EndFields) : EndFields :=
  match a.point, b.point with
  | none, _ => b
  | some _, none => a
  | some p, some q => if p ≠ q then (if further p q then a else b)
    else ⟨some p, a.closed && b.closed⟩

/-- Of two right ends the one that leaves out less: an infinite end prevails, of two points the one
to the right counts, and an end at one point is closed when one of them is. -/
def outerRight (a b : EndFields) : EndFields :=
  match a.point, b.point with
  | none, _ => a
  | some _, none => b
  | some p, some q => if p ≠ q then (if q < p then a else b) else ⟨some p, a.closed || b.closed⟩

variable (a b : Option Bound)

/-- Of two left ends the one to the right is the inner one. -/
lemma inner_above : inner (· > ·) (ofEnd a) (ofEnd b) = ofEnd (Interval.innerLower a b) := by
  rcases a with _ | ⟨p, c⟩
  · rfl
  rcases b with _ | ⟨q, d⟩
  · rfl
  rcases lt_trichotomy p q with lt | rfl | gt
  · simp [inner, ofEnd, Interval.innerLower, lt, lt.ne, lt.asymm]
  · simp [inner, ofEnd, Interval.innerLower]
  · simp [inner, ofEnd, Interval.innerLower, gt, gt.ne', gt.asymm]

/-- Of two right ends the one to the left is the inner one. -/
lemma inner_below : inner (· < ·) (ofEnd a) (ofEnd b) = ofEnd (Interval.innerUpper a b) := by
  rcases a with _ | ⟨p, c⟩
  · rfl
  rcases b with _ | ⟨q, d⟩
  · rfl
  rcases lt_trichotomy p q with lt | rfl | gt
  · simp [inner, ofEnd, Interval.innerUpper, lt, lt.ne]
  · simp [inner, ofEnd, Interval.innerUpper]
  · simp [inner, ofEnd, Interval.innerUpper, gt, gt.ne', gt.asymm]

lemma outerRight_ofEnd : outerRight (ofEnd a) (ofEnd b) = ofEnd (Interval.outerUpper a b) := by
  rcases a with _ | ⟨p, c⟩
  · rfl
  rcases b with _ | ⟨q, d⟩
  · rfl
  rcases lt_trichotomy p q with lt | rfl | gt
  · simp [outerRight, ofEnd, Interval.outerUpper, lt, lt.ne, lt.asymm]
  · simp [outerRight, ofEnd, Interval.outerUpper]
  · simp [outerRight, ofEnd, Interval.outerUpper, gt, gt.ne', gt.asymm]

end EndFields

namespace Interval

/-- The fields of the left end. -/
def leftFields (i : Interval) : EndFields :=
  .ofEnd i.lower

/-- The fields of the right end. -/
def rightFields (i : Interval) : EndFields :=
  .ofEnd i.upper

end Interval

namespace IntervalRecord

/-- The record with the fields of two ends. -/
def ofEnds (left right : EndFields) : IntervalRecord :=
  ⟨left.point.elim .null .rational, right.point.elim .null .rational, some (.bool left.closed),
    some (.bool right.closed)⟩

/-- A record of the fields of two ends is read as the interval between them. -/
lemma toInterval_ofEnds (lower upper : Option Bound) :
    (ofEnds (.ofEnd lower) (.ofEnd upper)).toInterval = .ok ⟨lower, upper⟩ := by
  have point (p : Option Rat) : (p.elim Value.null Value.rational).toEnd = .ok p := by
    cases p <;> rfl
  simp only [toInterval, ofEnds, EndFields.ofEnd, point, Interval.readFlag_any,
    Interval.boundOf_map]

/-- A record that closes an infinite end is refused. -/
example : (ofEnds ⟨none, true⟩ ⟨some 1, false⟩).toInterval =
    .error [.ofField "left_closed" (.infiniteClosed .left)] := by
  rfl

end IntervalRecord
end LineMeasure
