import LineMeasure.Interval.HalfOpen
import LineMeasure.Proofs.ENNRat.Embedding
import LineMeasure.Proofs.RealSet.Canonical
import LineMeasure.Proofs.RealSet.Line
import Mathlib.MeasureTheory.Measure.Lebesgue.Basic

/-!
# The extent of a set is its volume

The extent of a set is the sum of the widths of its pieces, infinite as soon as one of them is
unbounded. It is the Lebesgue measure of the real members of the set (`volume_toSet`): the pieces
are disjoint, and the volume of each is its width, whatever the flags of its ends. So the laws of a
measure hold for extents: they are additive (`extent_inter_add_sdiff`), grow with the set
(`extent_mono`), and the extent of a union of intervals in any order, with any overlaps, is at most
the sum of the widths (`extent_ofIntervals_le`).
-/

namespace LineMeasure
open MeasureTheory

namespace Interval

/-- The distance between the ends of a bounded interval, zero if they are in the other order;
infinity for an unbounded one. -/
def extent : Interval → ENNRat
  | ⟨some l, some u⟩ => .ofPositivePart (u.point - l.point)
  | _ => .infinite

/-- An unbounded interval has infinite extent. -/
lemma extent_of_unbounded {i : Interval} (h : i.isBounded = false) : i.extent = .infinite := by
  obtain ⟨_ | l, _ | u⟩ := i
  · rfl
  · rfl
  · rfl
  · cases h

/-- A bounded interval has two ends. -/
lemma exists_ends {i : Interval} (h : i.isBounded = true) : ∃ l u, i = ⟨some l, some u⟩ := by
  obtain ⟨_ | l, _ | u⟩ := i
  · cases h
  · cases h
  · cases h
  · exact ⟨l, u, rfl⟩

/-- The ends of an interval with members are in order. -/
lemma le_of_nonempty {l u : Bound} (h : isEmpty ⟨some l, some u⟩ = false) : l.point ≤ u.point := by
  simp only [isEmpty, Bool.or_eq_false_iff, decide_eq_false_iff_not] at h
  exact not_lt.1 h.1

/-- The real members of an interval form a measurable set. -/
lemma measurableSet_toSet (i : Interval) : MeasurableSet i.toSet := by
  have lower : MeasurableSet (lowerSet i.lower) := by
    rcases i.lower with _ | ⟨p, _ | _⟩
    · exact MeasurableSet.univ
    · exact measurableSet_Ioi
    · exact measurableSet_Ici
  have upper : MeasurableSet (upperSet i.upper) := by
    rcases i.upper with _ | ⟨p, _ | _⟩
    · exact MeasurableSet.univ
    · exact measurableSet_Iio
    · exact measurableSet_Iic
  exact lower.inter upper

/-- The volume of an interval is its extent. -/
theorem volume_toSet (i : Interval) : volume i.toSet = i.extent.toENNReal := by
  rcases i with ⟨_ | ⟨p, _ | _⟩, _ | ⟨q, _ | _⟩⟩ <;>
    simp [toSet, lowerSet, upperSet, extent, Set.Ici_inter_Iic, Set.Ici_inter_Iio,
      Set.Ioi_inter_Iic, Set.Ioi_inter_Iio]

/-- An interval that precedes another has no real member in common with it. -/
lemma Precedes.not_mem_toSet {i j : Interval} (h : i.Precedes j) {x : ℝ} (hi : x ∈ i.toSet) :
    ¬ x ∈ j.toSet := by
  intro hj
  obtain ⟨y, alike⟩ := exists_rat_mem_iff x [i, j]
  simp only [List.forall_mem_cons] at alike
  exact h.not_inUpper (alike.2.1.1 hj).1 (alike.1.1 hi).2

end Interval

namespace RealSet
open LineMeasure.Interval

/-- The sum of the widths of the pieces, infinite as soon as one of them is unbounded. -/
def extent (s : RealSet) : ENNRat :=
  ENNRat.sum (s.components.map Interval.extent)

/-- A set with an unbounded piece has infinite extent. -/
lemma extent_of_unbounded {s : RealSet} (h : s.isBounded = false) : s.extent = .infinite := by
  obtain ⟨c, hc, unbounded⟩ := List.all_eq_false.1 h
  refine ENNRat.sum_eq_infinite (List.mem_map.2 ⟨c, hc, ?_⟩)
  exact Interval.extent_of_unbounded (Bool.eq_false_of_not_eq_true unbounded)

/-- The sum of the distances `right - left` between the ends of the bounded pieces. -/
def totalWidth (s : RealSet) : Rat :=
  ((s.components.filterMap Interval.ends?).map fun t => t.right - t.left).sum

/-- The extents of bounded intervals with members add up to the distances between their ends. -/
lemma sum_extent_eq_finite {cs : List Interval} (bounded : ∀ c ∈ cs, c.isBounded = true)
    (nonempty : ∀ c ∈ cs, c.isEmpty = false) :
    ∃ nonneg, ENNRat.sum (cs.map Interval.extent) =
      .finite ((cs.filterMap Interval.ends?).map fun t => t.right - t.left).sum nonneg := by
  induction cs with
  | nil => exact ⟨le_rfl, rfl⟩
  | cons c cs ih =>
    obtain ⟨nonneg, rest⟩ := ih (fun d hd => bounded d (List.mem_cons_of_mem _ hd))
      fun d hd => nonempty d (List.mem_cons_of_mem _ hd)
    obtain ⟨l, u, rfl⟩ := exists_ends (bounded c List.mem_cons_self)
    have width : 0 ≤ u.point - l.point :=
      sub_nonneg.2 (le_of_nonempty (nonempty _ List.mem_cons_self))
    refine ⟨?_, ?_⟩
    · simpa [Interval.ends?] using add_nonneg width nonneg
    · simp [rest, Interval.extent, Interval.ends?, ENNRat.ofPositivePart,
        Rational.positivePart_of_nonneg width]

/-- The extent of a bounded set is the sum of the distances between the ends of its pieces. -/
theorem extent_of_bounded {s : RealSet} (h : s.isBounded = true) :
    ∃ nonneg, s.extent = .finite s.totalWidth nonneg :=
  sum_extent_eq_finite (List.all_eq_true.1 h) s.normal.nonempty

/-- The real numbers in the intervals of a list. -/
def unionSet (cs : List Interval) : Set ℝ :=
  {x | ∃ c ∈ cs, x ∈ c.toSet}

@[simp]
lemma unionSet_nil : unionSet [] = ∅ := by
  simp [unionSet]

@[simp]
lemma unionSet_cons (c : Interval) (cs : List Interval) :
    unionSet (c :: cs) = c.toSet ∪ unionSet cs := by
  ext x
  simp [unionSet]

/-- The real members of a set are those of the intervals that it is built from. -/
lemma toSet_ofIntervals (cs : List Interval) : (ofIntervals cs).toSet = unionSet cs :=
  Set.ext fun _ => mem_toSet_ofIntervals

/-- Finitely many intervals have a measurable set of real members. -/
lemma measurableSet_unionSet (cs : List Interval) : MeasurableSet (unionSet cs) := by
  induction cs with
  | nil => simp
  | cons c cs ih =>
    rw [unionSet_cons]
    exact c.measurableSet_toSet.union ih

/-- The real members of a set form a measurable set. -/
lemma measurableSet_toSet (s : RealSet) : MeasurableSet s.toSet :=
  measurableSet_unionSet s.components

/-- The volumes of pieces in normal form add up. -/
lemma volume_unionSet {cs : List Interval} (normal : Normal cs) :
    volume (unionSet cs) = (ENNRat.sum (cs.map Interval.extent)).toENNReal := by
  rw [ENNRat.toENNReal_sum]
  induction cs with
  | nil => simp
  | cons c cs ih =>
    -- an endpoint that two pieces share belongs to at most one of them
    have apart : Disjoint c.toSet (unionSet cs) := by
      rw [Set.disjoint_left]
      rintro x hx ⟨d, hd, hd'⟩
      exact (normal.head_precedes hd).not_mem_toSet hx hd'
    rw [unionSet_cons, measure_union apart (measurableSet_unionSet cs), ih normal.tail,
      Interval.volume_toSet]
    simp

/-- The volume of intervals in any order, with any overlaps, is at most the sum of theirs. -/
lemma volume_unionSet_le (cs : List Interval) :
    volume (unionSet cs) ≤ (ENNRat.sum (cs.map Interval.extent)).toENNReal := by
  rw [ENNRat.toENNReal_sum]
  induction cs with
  | nil => simp
  | cons c cs ih =>
    rw [unionSet_cons, List.map_cons, List.map_cons, List.sum_cons, ← Interval.volume_toSet]
    exact (measure_union_le _ _).trans (add_le_add le_rfl ih)

/-- The volume of a set is its extent. -/
theorem volume_toSet (s : RealSet) : volume s.toSet = s.extent.toENNReal :=
  volume_unionSet s.normal

/-- Any set cuts another into two parts whose extents add up. -/
theorem extent_inter_add_sdiff (s t : RealSet) : (s ∩ t).extent + (s \ t).extent = s.extent := by
  apply ENNRat.toENNReal_injective
  rw [ENNRat.toENNReal_add, ← volume_toSet, ← volume_toSet, ← volume_toSet,
    toSet_inter, toSet_sdiff]
  exact measure_inter_add_sdiff _ t.measurableSet_toSet

/-- A larger set has a larger extent. -/
theorem extent_mono {s t : RealSet} (h : s ⊆ t) : s.extent ≤ t.extent := by
  rw [← ENNRat.toENNReal_le, ← volume_toSet, ← volume_toSet]
  exact measure_mono (toSet_subset_iff.2 h)

/-- The extent of a union of intervals is at most the sum of theirs. -/
theorem extent_ofIntervals_le (cs : List Interval) :
    (ofIntervals cs).extent ≤ ENNRat.sum (cs.map Interval.extent) := by
  rw [← ENNRat.toENNReal_le, ← volume_toSet, toSet_ofIntervals]
  exact volume_unionSet_le cs

/-- A set that is built from one interval has its extent. -/
theorem extent_ofIntervals_singleton (c : Interval) : (ofIntervals [c]).extent = c.extent := by
  apply ENNRat.toENNReal_injective
  rw [← volume_toSet, toSet_ofIntervals, unionSet_cons, unionSet_nil, Set.union_empty,
    Interval.volume_toSet]

end RealSet
end LineMeasure
