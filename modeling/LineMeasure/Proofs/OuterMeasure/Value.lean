import LineMeasure.OuterMeasure
import LineMeasure.Proofs.Cover.Canonical
import LineMeasure.Proofs.Limit.Affine

/-!
# The value of the outer measure

The outer measure of every set is its extent, with any parameters (`outerMeasure_eq_extent`): the
sums of the canonical covers are the extent and a fixed share of the excess, which is a family that
is affine on the probes, or infinite on all of them. So no set is without an outer measure, and its
value is known from the ends of its pieces.
-/

namespace LineMeasure

/-- A canonical cover with a positive excess is accepted as an upper bound. -/
lemma outerMeasureUpperBound_canonical (cfg : Config) (s : RealSet) {eps : Rat}
    (positive : 0 < eps) :
    outerMeasureUpperBound cfg s (.canonical s eps) =
      .ok (s.extent + .ofPositivePart (eps * Cover.padShares 0 s.components)) := by
  rw [outerMeasureUpperBound, Cover.covers_canonical s positive,
    ← Cover.sum_canonical s positive.le]
  rfl

/-- The outer measure of a set is its extent. -/
theorem outerMeasure_eq_extent (cfg : Config) (s : RealSet) :
    outerMeasure cfg s = .ok s.extent := by
  have valid := cfg.probes_valid
  have value : ∀ t ∈ cfg.limitProbes, outerMeasureUpperBound cfg s (.canonical s t) =
      .ok (s.extent + .ofPositivePart (t * Cover.padShares 0 s.components)) :=
    fun t ht => outerMeasureUpperBound_canonical cfg s (valid.positive t ht)
  unfold outerMeasure
  split
  -- the empty set is measured without a cover
  next empty =>
    have no_pieces : s.components = [] := List.isEmpty_iff.1 empty
    rw [RealSet.extent, no_pieces]
    rfl
  next =>
    cases width : s.extent with
    | finite a nonneg =>
      refine Limit.affineLimit_of_affine (b := Cover.padShares 0 s.components) nonneg valid value ?_
      intro t ht
      have share : 0 ≤ t * Cover.padShares 0 s.components :=
        mul_nonneg (valid.positive t ht).le (Cover.padShares_nonneg 0 s.components)
      rw [width, ENNRat.ofPositivePart_of_nonneg share, ENNRat.finite_add_finite,
        ENNRat.toRat?, mul_comm]
    | infinite =>
      refine Limit.affineLimit_of_infinite valid ?_
      intro t ht
      rw [value t ht, width, ENNRat.infinite_add]

/-- Every set has an outer measure, which does not depend on the parameters. For a bounded set it is
the sum of the distances between the ends of its pieces, and for an unbounded one it is infinite. -/
theorem outerMeasure_exact (s : RealSet) :
    ∃ m, (∀ cfg, outerMeasure cfg s = .ok m) ∧
      (s.isBounded = true ∧ (∃ nonneg, m = .finite s.totalWidth nonneg) ∨
        s.isBounded = false ∧ m = .infinite) := by
  refine ⟨s.extent, fun cfg => outerMeasure_eq_extent cfg s, ?_⟩
  cases bounded : s.isBounded with
  | true => exact .inl ⟨rfl, RealSet.extent_of_bounded bounded⟩
  | false => exact .inr ⟨rfl, RealSet.extent_of_unbounded bounded⟩

end LineMeasure
