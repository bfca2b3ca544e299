import LineMeasure.Given.Measure
import LineMeasure.Proofs.Interval.Order
import LineMeasure.Proofs.Record.Ends

/-!
# Intersections of intervals

The ends of an intersection are chosen side by side, each from the two ends on its side, and they
make up an interval wherever the four ends lie, also where they cross (`toInterval_inner`). Its
members are those that both intervals have, and an interval is empty by its ends exactly when it has
no members (`intersection_exact`).
-/

namespace LineMeasure.Interval

variable (i j : Interval)

/-- The record of the inner ends of two intervals is that of their intersection. -/
lemma toInterval_inner :
    (IntervalRecord.ofEnds (.inner (· > ·) i.leftFields j.leftFields)
      (.inner (· < ·) i.rightFields j.rightFields)).toInterval = .ok (i ∩ j) := by
  simp only [leftFields, rightFields, EndFields.inner_above, EndFields.inner_below]
  exact IntervalRecord.toInterval_ofEnds (innerLower i.lower j.lower) (innerUpper i.upper j.upper)

/-- Whether a rational number is a member can always be said. -/
lemma intervalContains_rational (x : Rat) :
    Given.intervalContains i (.rational x) = .ok (decide (x ∈ i)) :=
  rfl

/-- The inner ends of two intervals make up an interval with exactly the common members. -/
theorem intersection_exact :
    (IntervalRecord.ofEnds (.inner (· > ·) i.leftFields j.leftFields)
      (.inner (· < ·) i.rightFields j.rightFields)).toInterval = .ok (i ∩ j) ∧
    ((i ∩ j).lower = none → (i ∩ j).leftClosed = false) ∧
    ((i ∩ j).upper = none → (i ∩ j).rightClosed = false) ∧
    (∀ x, ∃ first second, Given.intervalContains i (.rational x) = .ok first ∧
      Given.intervalContains j (.rational x) = .ok second ∧
      Given.intervalContains (i ∩ j) (.rational x) = .ok (first && second)) ∧
    (i.isEmpty = true ↔ ∀ x, Given.intervalContains i (.rational x) = .ok false) := by
  obtain ⟨left, right⟩ := open_of_infinite (i ∩ j)
  refine ⟨toInterval_inner i j, left, right, fun x => ⟨_, _, rfl, rfl, ?_⟩, ?_⟩
  · rw [intervalContains_rational, ← Bool.decide_and]
    exact congrArg Except.ok (decide_eq_decide.2 mem_inter)
  · simp only [intervalContains_rational, Except.ok.injEq, decide_eq_false_iff_not]
    exact isEmpty_iff

end LineMeasure.Interval
