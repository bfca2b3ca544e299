import LineMeasure.Given.Measure
import LineMeasure.Proofs.ENNRat.Semiring
import LineMeasure.Proofs.OuterMeasure.Value

/-!
# Monotonicity is decided by inclusion

A set and what it leaves of a larger one add up to the larger one (`extent_add_sdiff`). So the check
of monotonicity never finds that a subset has the larger measure: it either refuses the two sets, as
the first is no subset of the second, or it holds (`monotonicity_decided`). A subset of a set of
finite measure has all of its measure exactly when what it leaves has measure zero.
-/

namespace LineMeasure

namespace RealSet
variable {s t : RealSet}

/-- The extent of a set is that of a subset and that of the rest together. -/
theorem extent_add_sdiff (included : s ⊆ t) : s.extent + (t \ s).extent = t.extent := by
  have common : t ∩ s = s := by
    ext x
    rw [mem_inter]
    exact and_iff_right_of_imp (included x)
  have parts := extent_inter_add_sdiff t s
  rwa [common] at parts

/-- A subset has all of a finite extent exactly when the rest has an extent of zero. -/
theorem extent_eq_iff (included : s ⊆ t) (finite : t.extent ≠ .infinite) :
    s.extent = t.extent ↔ (t \ s).extent = 0 := by
  have parts := extent_add_sdiff included
  constructor
  · intro same
    apply ENNRat.add_left_cancel (same ▸ finite)
    rw [parts, same, add_zero]
  · intro nothing
    rwa [nothing, add_zero] at parts

end RealSet

variable (cfg : Config) {s t : RealSet}

/-- On a set and a subset of it the check holds. -/
lemma checkMonotonicity_of_subset (included : s ⊆ t) : checkMonotonicity cfg s t = .ok true := by
  have accepted : s.isSubset t = true := RealSet.isSubset_iff.2 included
  simp only [checkMonotonicity, accepted, outerMeasure_eq_extent, bind, Except.bind]
  exact congrArg Except.ok (decide_eq_true (RealSet.extent_mono included))

/-- Other sets are refused. -/
lemma checkMonotonicity_of_not_subset (apart : ¬ s ⊆ t) :
    checkMonotonicity cfg s t = .error (.notSubset s t) := by
  have refused : s.isSubset t = false :=
    Bool.eq_false_of_not_eq_true (RealSet.isSubset_iff.not.2 apart)
  rw [checkMonotonicity, refused]
  rfl

/-- The check of monotonicity fails exactly when the first set is not included in the second. -/
theorem monotonicity_decided {given larger : GivenSet} (stands : given.toRealSet = .ok s)
    (standsLarger : larger.toRealSet = .ok t) :
    (∃ x, x ∈ s ∧ ¬ x ∈ t) ∧ Given.monotonicity cfg given larger = .error (.notSubset s t) ∨
      (∀ x, x ∈ s → x ∈ t) ∧ Given.monotonicity cfg given larger = .ok true ∧
        ∃ m n rest, outerMeasure cfg s = .ok m ∧ outerMeasure cfg t = .ok n ∧
          outerMeasure cfg (t \ s) = .ok rest ∧
          (n ≠ .infinite → (m = n ↔ rest = 0)) := by
  have run : Given.monotonicity cfg given larger = checkMonotonicity cfg s t := by
    rw [Given.monotonicity, stands, standsLarger]
    rfl
  rw [run]
  by_cases included : s ⊆ t
  · refine .inr ⟨included, checkMonotonicity_of_subset cfg included, s.extent, t.extent,
      (t \ s).extent, ?_⟩
    exact ⟨outerMeasure_eq_extent cfg s, outerMeasure_eq_extent cfg t,
      outerMeasure_eq_extent cfg (t \ s), RealSet.extent_eq_iff included⟩
  · have outside : ∃ x, ¬ (x ∈ s → x ∈ t) := not_forall.1 included
    simp only [Classical.not_imp] at outside
    exact .inl ⟨outside, checkMonotonicity_of_not_subset cfg included⟩

/-- Two pieces beside a missing point, in a closed interval. -/
theorem monotonicity_decided_punctured :
    let s : RealSet :=
      .ofIntervals [⟨some ⟨0, false⟩, some ⟨1, false⟩⟩, ⟨some ⟨1, false⟩, some ⟨2, true⟩⟩]
    let i : Interval := ⟨some ⟨0, true⟩, some ⟨2, true⟩⟩
    (GivenSet.set s).toRealSet = .ok s ∧ (GivenSet.interval i).toRealSet = .ok (.ofIntervals [i]) ∧
      Given.monotonicity .default (.set s) (.interval i) = .ok true ∧
      ∃ m n rest, outerMeasure .default s = .ok m ∧
        outerMeasure .default (.ofIntervals [i]) = .ok n ∧
        outerMeasure .default (.ofIntervals [i] \ s) = .ok rest ∧
        (n ≠ .infinite → (m = n ↔ rest = 0)) := by
  intro s i
  have included : ∀ x, x ∈ s → x ∈ RealSet.ofIntervals [i] := by
    intro x hx
    simp only [s, i, RealSet.mem_ofIntervals, List.mem_cons, List.not_mem_nil, or_false,
      exists_eq_or_imp, exists_eq_left, Interval.mem_iff, Interval.inLower_some,
      Interval.inUpper_some] at hx ⊢
    grind [Bound.IsBelow, Bound.IsAbove]
  have stands : (GivenSet.set s).toRealSet = .ok s := rfl
  have standsLarger : (GivenSet.interval i).toRealSet = .ok (.ofIntervals [i]) := rfl
  rcases monotonicity_decided .default stands standsLarger with ⟨⟨x, hx, hn⟩, -⟩ | ⟨-, holds⟩
  · exact absurd (included x hx) hn
  · exact ⟨stands, standsLarger, holds⟩

end LineMeasure
