import LineMeasure.Proofs.Compactness.CoveredLength
import LineMeasure.Proofs.Limit.Superlevel

/-!
# Two ways to the first uncovered point

The end of the pass over the terms is the largest point `x` of `[a, b]` for which `[a, x)` is
covered up to its full length (`isGreatest_firstUncovered`), and the search of the segments between
the ends of the terms finds it (`progressSupremum_eq`): it is one of these ends, the slack is zero
there and negative behind it.
-/

namespace LineMeasure.Compactness

variable {terms : List HalfOpen} {a b x : Rat}

/-- At the first uncovered point the slack is zero. -/
lemma slack_firstUncovered (le : a ≤ b) (terms : List HalfOpen) :
    slack a terms (firstUncovered a b terms) = 0 := by
  rw [slack, coveredLength_of_covers (le_firstUncovered le terms) covers_firstUncovered, sub_self]

/-- Behind the first uncovered point the slack is negative. -/
lemma slack_neg (le : a ≤ b) (behind : firstUncovered a b terms < x) (xb : x ≤ b) :
    slack a terms x < 0 := by
  have uncovered := firstUncovered_not_mem (lt_of_lt_of_le behind xb)
  exact sub_neg.2 (coveredLength_lt (le_firstUncovered le terms) behind uncovered)

/-- The first uncovered point is the largest point up to which the terms cover the full length. -/
theorem isGreatest_firstUncovered (le : a ≤ b) (terms : List HalfOpen) :
    IsGreatest {x | a ≤ x ∧ x ≤ b ∧ x - a ≤ coveredLength terms x (some a)}
      (firstUncovered a b terms) := by
  constructor
  · refine ⟨le_firstUncovered le terms, firstUncovered_le a b terms, ?_⟩
    exact sub_nonneg.1 (slack_firstUncovered le terms).ge
  · rintro x ⟨-, xb, paid⟩
    by_contra behind
    have short := slack_neg le (not_le.1 behind) xb
    exact absurd (sub_nonneg.2 paid) (not_le.2 short)

/-- The first uncovered point is an end of a segment. -/
lemma firstUncovered_mem_segmentEnds (le : a ≤ b) (terms : List HalfOpen) :
    firstUncovered a b terms ∈
      Limit.segmentEnds (terms.flatMap fun t => [t.left, t.right]) a b := by
  rw [Limit.mem_segmentEnds]
  rcases eq_or_lt_of_le (le_firstUncovered le terms) with start | above
  · exact .inl start.symm
  rcases eq_or_lt_of_le (firstUncovered_le a b terms) with stop | below
  · exact .inr (.inl stop)
  · rcases firstUncovered_mem_ends a b terms with start | stop | ⟨t, ht, stop⟩
    · exact absurd start above.ne'
    · exact absurd stop below.ne
    · exact .inr (.inr ⟨List.mem_flatMap.2 ⟨t, ht, by simp [stop]⟩, above, below⟩)

/-- The supremum of the points of progress exists and is the first uncovered point. -/
theorem progressSupremum_eq (le : a ≤ b) (terms : List HalfOpen) :
    progressSupremum a b terms = .ok (firstUncovered a b terms) := by
  have found := Limit.superlevelSupremum_of_root le (firstUncovered_mem_segmentEnds le terms)
    (slack_firstUncovered le terms) fun x behind xb => slack_neg le behind xb
  rw [progressSupremum, found]
  rfl

/-- Intervals with finite ends are read as half-open ones. -/
lemma exists_mapM_ends {intervals : List Interval} (bounded : ∀ i ∈ intervals, i.isBounded = true) :
    ∃ terms, intervals.mapM Interval.ends? = some terms := by
  induction intervals with
  | nil => exact ⟨[], rfl⟩
  | cons i rest ih =>
    obtain ⟨terms, read⟩ := ih fun j hj => bounded j (List.mem_cons_of_mem _ hj)
    obtain ⟨_ | l, _ | u⟩ := i
    · cases bounded _ List.mem_cons_self
    · cases bounded _ List.mem_cons_self
    · cases bounded _ List.mem_cons_self
    · exact ⟨⟨l.point, u.point⟩ :: terms, by simp [Interval.ends?, read]⟩

/-- The pass over terms ends at the supremum that the search of the segments finds. -/
theorem firstUncovered_eq_progressSupremum (le : a ≤ b) {intervals : List Interval}
    (bounded : ∀ i ∈ intervals, i.isBounded = true) :
    ∃ terms, intervals.mapM Interval.ends? = some terms ∧
      progressSupremum a b terms = .ok (firstUncovered a b terms) ∧
      IsGreatest {x | a ≤ x ∧ x ≤ b ∧ x - a ≤ coveredLength terms x (some a)}
        (firstUncovered a b terms) := by
  obtain ⟨terms, read⟩ := exists_mapM_ends bounded
  exact ⟨terms, read, progressSupremum_eq le terms, isGreatest_firstUncovered le terms⟩

/-- Intervals in no order, one reversed, one with both ends closed and one behind a gap. -/
theorem firstUncovered_eq_progressSupremum_unsorted :
    let intervals : List Interval :=
      [⟨some ⟨1, true⟩, some ⟨2, true⟩⟩, .ico 5 1, .ico 3 6,
        ⟨some ⟨-1, false⟩, some ⟨3 / 2, false⟩⟩]
    (0 : Rat) ≤ 4 ∧ (∀ i ∈ intervals, i.isBounded = true) ∧
      ∃ terms, intervals.mapM Interval.ends? = some terms ∧
        progressSupremum 0 4 terms = .ok (firstUncovered 0 4 terms) ∧
        IsGreatest {x | 0 ≤ x ∧ x ≤ 4 ∧ x - 0 ≤ coveredLength terms x (some 0)}
          (firstUncovered 0 4 terms) := by
  intro intervals
  have le : (0 : Rat) ≤ 4 := by decide
  have bounded : ∀ i ∈ intervals, i.isBounded = true := by decide
  exact ⟨le, bounded, firstUncovered_eq_progressSupremum le bounded⟩

end LineMeasure.Compactness
