import LineMeasure.Proofs.Compactness.Progress
import LineMeasure.Proofs.Cover.Terms
import LineMeasure.Proofs.OuterMeasure.Value

/-!
# The covered length is an outer measure

The length of what intervals cover below a point, found by a pass over their parts in order, is the
outer measure of their union cut off at that point (`extent_inter_window`). The pass reads the ends
of the intervals and not whether they belong to them; these are finitely many points, so that the
volume does not see them either. A volume knows nothing of an order or of repetitions, and so the
covered length does not depend on them.
-/

namespace LineMeasure
open MeasureTheory

namespace Interval

/-- An interval with finite ends has the members of the half-open one, up to the two ends. -/
lemma toSet_ae_eq {i : Interval} {t : HalfOpen} (h : i.ends? = some t) :
    i.toSet =ᵐ[volume] Set.Ico (t.left : ℝ) t.right := by
  obtain ⟨_ | ⟨p, _ | _⟩, _ | ⟨q, _ | _⟩⟩ := i <;> cases h
  · rw [toSet, lowerSet, upperSet, Set.Ioi_inter_Iio]
    exact Ioo_ae_eq_Ico
  · rw [toSet, lowerSet, upperSet, Set.Ioi_inter_Iic]
    exact Ico_ae_eq_Ioc.symm
  · rw [toSet, lowerSet, upperSet, Set.Ici_inter_Iio]
    exact ae_eq_refl _
  · rw [toSet, lowerSet, upperSet, Set.Ici_inter_Iic]
    exact Ico_ae_eq_Icc.symm

/-- The width of an interval is that of the half-open one between its ends. -/
lemma width?_eq (i : Interval) : i.width? = i.ends?.map HalfOpen.width := by
  obtain ⟨_ | l, _ | u⟩ := i <;> rfl

end Interval

namespace Compactness

variable {intervals : List Interval} {terms us : List HalfOpen}

/-- Intervals that are read as half-open ones stand beside these in order. -/
lemma forall₂_ends (read : intervals.mapM Interval.ends? = some terms) :
    List.Forall₂ (fun i t => i.ends? = some t) intervals terms := by
  induction intervals generalizing terms with
  | nil =>
    cases read
    exact .nil
  | cons i rest ih =>
    simp only [List.mapM_cons, Option.bind_eq_bind, Option.bind_eq_some_iff, Option.pure_def,
      Option.some.injEq] at read
    obtain ⟨t, first, ts, later, rfl⟩ := read
    exact .cons first (ih later)

/-- Intervals cover the same numbers as their half-open forms, up to the ends. -/
lemma unionSet_ae_eq (forms : List.Forall₂ (fun i t => i.ends? = some t) intervals terms) :
    RealSet.unionSet intervals =ᵐ[volume] termSet terms := by
  induction forms with
  | nil => exact ae_eq_refl _
  | cons first _ ih =>
    rw [termSet, List.map_cons, RealSet.unionSet_cons, RealSet.unionSet_cons,
      HalfOpen.toSet_toInterval]
    exact (Interval.toSet_ae_eq first).union ih

/-- Intervals are as wide as their half-open forms. -/
lemma mapM_width? (forms : List.Forall₂ (fun i t => i.ends? = some t) intervals terms) :
    intervals.mapM Interval.width? = some (terms.map HalfOpen.width) := by
  induction forms with
  | nil => rfl
  | cons first _ ih =>
    rw [List.mapM_cons, Interval.width?_eq, first, ih]
    rfl

/-- The numbers below `x`, and from `a` on when it is given. -/
def window (a : Option Rat) (x : Rat) : Interval :=
  a.elim (.rayBelow x) (.ico · x)

lemma toSet_window (a : Option Rat) (x : Rat) :
    (window a x).toSet = fromOn a ∩ Set.Iio (x : ℝ) := by
  cases a <;> rfl

/-- The covered length is the extent of the union of the intervals, cut off at `x` and at `a` when
it is given. -/
theorem extent_inter_window (read : intervals.mapM Interval.ends? = some terms)
    (a : Option Rat) (x : Rat) :
    (RealSet.ofIntervals intervals ∩ .ofIntervals [window a x]).extent =
      .finite (coveredLength terms x a) (coveredLength_nonneg terms x a) := by
  apply ENNRat.toENNReal_injective
  rw [← RealSet.volume_toSet, RealSet.toSet_inter, RealSet.toSet_ofIntervals,
    RealSet.toSet_ofIntervals, RealSet.unionSet_cons, RealSet.unionSet_nil, Set.union_empty,
    toSet_window, ENNRat.toENNReal_finite, ← volume_termSet_inter]
  exact measure_congr ((unionSet_ae_eq (forall₂_ends read)).inter (ae_eq_refl _))

/-- Two lists of the same terms cover the same length. -/
lemma coveredLength_congr (same : ∀ t, t ∈ us ↔ t ∈ terms) (x : Rat) (a : Option Rat) :
    coveredLength us x a = coveredLength terms x a := by
  have alike : termSet us = termSet terms := by
    ext z
    simp only [mem_termSet, same]
  have volumes := volume_termSet_inter us x a
  rw [alike, volume_termSet_inter,
    ENNReal.ofReal_eq_ofReal_iff (Rat.cast_nonneg.2 (coveredLength_nonneg _ _ _))
    (Rat.cast_nonneg.2 (coveredLength_nonneg _ _ _)), Rat.cast_inj] at volumes
  exact volumes.symm

/-- No more is covered than the terms are wide together. -/
lemma coveredLength_le_sum (terms : List HalfOpen) (x : Rat) (a : Option Rat) :
    coveredLength terms x a ≤ (terms.map HalfOpen.width).sum := by
  obtain ⟨nonneg, widths⟩ := Cover.sum_lengths_eq_finite terms
  have bound : ENNRat.finite (coveredLength terms x a) (coveredLength_nonneg terms x a) ≤
      ENNRat.sum (terms.map HalfOpen.length) := by
    rw [← ENNRat.toENNReal_le, ENNRat.toENNReal_finite, ← volume_termSet_inter,
      ← Cover.map_extent_toInterval]
    exact (measure_mono Set.inter_subset_left).trans (RealSet.volume_unionSet_le _)
  rw [widths] at bound
  exact ENNRat.finite_le_finite.1 bound

/-- The covered length of `[a, x)` is the outer measure of what the union has in it. -/
theorem coveredLength_eq_outerMeasure (bounded : ∀ i ∈ intervals, i.isBounded = true)
    (cfg : Config) (x : Rat) :
    ∃ terms, intervals.mapM Interval.ends? = some terms ∧
      (∀ a, ∃ nonneg, outerMeasure cfg (.ofIntervals intervals ∩ .ofIntervals [.ico a x]) =
        .ok (.finite (coveredLength terms x (some a)) nonneg)) ∧
      (∃ nonneg, outerMeasure cfg (.ofIntervals intervals ∩ .ofIntervals [.rayBelow x]) =
        .ok (.finite (coveredLength terms x none) nonneg)) ∧
      ∀ a, (∀ us, (∀ t, t ∈ us ↔ t ∈ terms) → coveredLength us x a = coveredLength terms x a) ∧
        ∃ widths, intervals.mapM Interval.width? = some widths ∧
          coveredLength terms x a ≤ widths.sum := by
  obtain ⟨terms, read⟩ := exists_mapM_ends bounded
  have measured (a : Option Rat) :
      outerMeasure cfg (.ofIntervals intervals ∩ .ofIntervals [window a x]) =
        .ok (.finite (coveredLength terms x a) (coveredLength_nonneg terms x a)) := by
    rw [outerMeasure_eq_extent, extent_inter_window read]
  refine ⟨terms, read, fun a => ⟨_, measured (some a)⟩, ⟨_, measured none⟩,
    fun a => ⟨fun us same => ?_, ?_⟩⟩
  · exact coveredLength_congr same x a
  · exact ⟨_, mapM_width? (forall₂_ends read), coveredLength_le_sum terms x a⟩

/-- What overlaps, here `[1, 2]` and `(3/2, 3)`, counts once, and neither the reversed interval nor
what is in front of `1` counts at all. -/
theorem coveredLength_eq_outerMeasure_overlap :
    let intervals : List Interval :=
      [⟨some ⟨3 / 2, false⟩, some ⟨3, false⟩⟩, .ico 5 1,
        ⟨some ⟨1, true⟩, some ⟨2, true⟩⟩, .ico (-1) 0]
    (∀ i ∈ intervals, i.isBounded = true) ∧
      ∃ terms, intervals.mapM Interval.ends? = some terms ∧ coveredLength terms 4 (some 1) = 2 ∧
        (∃ nonneg, outerMeasure .default (.ofIntervals intervals ∩ .ofIntervals [.ico 1 4]) =
          .ok (.finite (coveredLength terms 4 (some 1)) nonneg)) ∧
        ∃ nonneg, outerMeasure .default (.ofIntervals intervals ∩ .ofIntervals [.rayBelow 4]) =
          .ok (.finite (coveredLength terms 4 none) nonneg) := by
  intro intervals
  have bounded : ∀ i ∈ intervals, i.isBounded = true := by decide
  obtain ⟨terms, read, fromOn, below, -⟩ := coveredLength_eq_outerMeasure bounded .default 4
  refine ⟨bounded, terms, read, ?_, fromOn 1, below⟩
  obtain rfl : [⟨3 / 2, 3⟩, ⟨5, 1⟩, ⟨1, 2⟩, ⟨-1, 0⟩] = terms := Option.some.inj read
  cbv

end Compactness
end LineMeasure
