import LineMeasure.Proofs.Interval.Order
import LineMeasure.Proofs.Record.Ends
import Mathlib.Order.Interval.Set.OrdConnected

/-!
# Merging two intervals

Two intervals in order of their lower ends are merged unless the first one precedes the second. That
is exactly when no number is missing between their members: a gap leaves a number out
(`Precedes.exists_between`), and without one the merged interval has all members of both and no
others, so that it holds with any two numbers all those between them.
-/

namespace LineMeasure.Interval

/-- With two numbers an interval holds all numbers between them. -/
lemma ordConnected (i : Interval) : Set.OrdConnected {x | x ∈ i} :=
  ⟨fun _ hx _ hy _ hz => ⟨hx.1.mono hz.1, hy.2.anti hz.2⟩⟩

/-- A gap lies strictly between any two members of the intervals beside it. -/
lemma Precedes.exists_between {i j : Interval} {x y : Rat} (h : i.Precedes j) (hx : x ∈ i)
    (hy : y ∈ j) :
    ∃ z, x < z ∧ z < y ∧ ¬ z ∈ i ∧ ¬ z ∈ j := by
  obtain ⟨z, le, behind, before⟩ := h.exists_gap (h.not_inUpper hy.1)
  refine ⟨z, ?_, ?_, fun hz => behind hz.2, fun hz => before hz.1⟩
  · exact not_le.1 fun ge => behind (hx.2.anti ge)
  · exact lt_of_le_of_ne le fun eq => before (eq ▸ hy.1)

/-- The record of the left end of one interval and the outer one of two right ends is that of the
merged interval. -/
lemma toInterval_outerRight (i j : Interval) :
    (IntervalRecord.ofEnds i.leftFields (i.rightFields.outerRight j.rightFields)).toInterval =
      .ok (i.merge j) := by
  rw [leftFields, rightFields, rightFields, EndFields.outerRight_ofEnd]
  exact IntervalRecord.toInterval_ofEnds i.lower (outerUpper i.upper j.upper)

/-- Intervals touch exactly when their union has no holes, and then they merge into the union. -/
theorem merge_exact {i j : Interval} (hi : i.isEmpty = false) (hj : j.isEmpty = false)
    (order : lowerLe i.lower j.lower = true) :
    (¬ i.Precedes j ↔ Set.OrdConnected {x | x ∈ i ∨ x ∈ j}) ∧
    (¬ i.Precedes j ↔ ∀ x ∈ i, ∀ y ∈ j, ∀ z, min x y < z → z < max x y → z ∈ i ∨ z ∈ j) ∧
    (¬ i.Precedes j →
      (IntervalRecord.ofEnds i.leftFields (i.rightFields.outerRight j.rightFields)).toInterval =
        .ok (i.merge j) ∧
      (i.merge j).isEmpty = false ∧ ∀ x, x ∈ i.merge j ↔ x ∈ i ∨ x ∈ j) := by
  have merged (touch : ¬ i.Precedes j) (x : Rat) : x ∈ i.merge j ↔ x ∈ i ∨ x ∈ j :=
    mem_merge hi hj order touch
  have connected (touch : ¬ i.Precedes j) : Set.OrdConnected {x | x ∈ i ∨ x ∈ j} := by
    have whole := (i.merge j).ordConnected
    simpa only [merged touch] using whole
  have filled (union : Set.OrdConnected {x | x ∈ i ∨ x ∈ j}) :
      ∀ x ∈ i, ∀ y ∈ j, ∀ z, min x y < z → z < max x y → z ∈ i ∨ z ∈ j := by
    intro x hx y hy z above below
    exact union.uIcc_subset (.inl hx) (.inr hy) ⟨above.le, below.le⟩
  have touching (full : ∀ x ∈ i, ∀ y ∈ j, ∀ z, min x y < z → z < max x y → z ∈ i ∨ z ∈ j) :
      ¬ i.Precedes j := by
    intro gap
    obtain ⟨x, hx⟩ := exists_mem hi
    obtain ⟨y, hy⟩ := exists_mem hj
    obtain ⟨z, above, below, notFirst, notSecond⟩ := gap.exists_between hx hy
    rcases full x hx y hy z (min_lt_of_left_lt above) (lt_max_of_lt_right below) with hz | hz
    · exact notFirst hz
    · exact notSecond hz
  refine ⟨⟨connected, fun union => touching (filled union)⟩,
    ⟨fun touch => filled (connected touch), touching⟩,
    fun touch => ⟨toInterval_outerRight i j, isEmpty_merge hi, merged touch⟩⟩

/-- An interval that is open at its right end touches the one point there, and they are merged into
a closed one. -/
theorem merge_exact_openEnd :
    let i : Interval := .ico 0 1
    let j : Interval := .point 1
    i.isEmpty = false ∧ j.isEmpty = false ∧ lowerLe i.lower j.lower = true ∧ ¬ i.Precedes j ∧
      Set.OrdConnected {x | x ∈ i ∨ x ∈ j} ∧ i.merge j = ⟨some ⟨0, true⟩, some ⟨1, true⟩⟩ ∧
      ∀ x, x ∈ i.merge j ↔ x ∈ i ∨ x ∈ j := by
  intro i j
  have touch : ¬ i.Precedes j := by decide +kernel
  have hi : i.isEmpty = false := by decide +kernel
  have order : lowerLe i.lower j.lower = true := by decide +kernel
  obtain ⟨connected, -, merged⟩ := merge_exact hi rfl order
  exact ⟨hi, rfl, order, touch, connected.1 touch, by decide +kernel, (merged touch).2.2⟩

end LineMeasure.Interval
