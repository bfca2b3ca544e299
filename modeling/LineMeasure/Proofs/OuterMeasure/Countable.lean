import LineMeasure.Proofs.Cover.Points
import LineMeasure.Proofs.OuterMeasure.Value

/-!
# Countable sets have measure zero

The covers of a sequence of points have sums that are one share of the excess, whatever the points
are: all of it for an endless sequence, and `1 - 1 / 2 ^ m` of it for `m` points. So the sums lie on
a line through zero on any probes, and their limit is zero (`affineLimit_of_share`). A listed
sequence has a measure as soon as its entries stand for numbers, and then the set of these numbers
has the same one; otherwise it is refused at its first entry that stands for none, and never for
want of a limit.
-/

namespace LineMeasure

namespace Limit
variable {f : Rat → Except Error ENNRat} {probes : List Rat}

/-- A family that is one share of its parameter has the limit zero. -/
lemma affineLimit_of_share {share : Rat} (valid : ValidProbes probes) (nonneg : 0 ≤ share)
    (h : ∀ t ∈ probes, f t = .ok (.ofPositivePart (t * share))) : affineLimit f probes = .ok 0 := by
  refine affineLimit_of_affine (b := share) le_rfl valid h fun t ht => ?_
  rw [ENNRat.toRat?_ofPositivePart (mul_nonneg (valid.positive t ht).le nonneg), mul_comm, zero_add]

end Limit

/-- A set of points has no extent. -/
lemma RealSet.extent_ofPoints (qs : List Rat) : (RealSet.ofPoints qs).extent = 0 := by
  have points : ENNRat.sum ((qs.map Interval.point).map Interval.extent) = 0 := by
    induction qs with
    | nil => rfl
    | cons q qs ih =>
      rw [List.map_cons, List.map_cons, ENNRat.sum_cons, ih, add_zero, Interval.point,
        Interval.extent, sub_self, ENNRat.ofPositivePart_zero]
  exact le_antisymm (points ▸ RealSet.extent_ofIntervals_le _) (ENNRat.nonneg _)

/-- In a list of values each stands for a number, or there is a first one that does not. -/
lemma Value.forall_toRat_or (vs : List Value) :
    (∃ qs : List Rat, vs.map toRat = qs.map .ok) ∨
      ∃ before v after fault, vs = before ++ v :: after ∧ (∀ u ∈ before, ∃ q, u.toRat = .ok q) ∧
        v.toRat = .error fault := by
  rcases forall_ok_or toRat vs with all | bad
  · obtain ⟨qs, -, forms⟩ := exists_mapM_eq_ok all
    refine .inl ⟨qs, ?_⟩
    rw [← List.forall₂_eq_eq_eq, List.forall₂_map_left_iff, List.forall₂_map_right_iff]
    exact forms
  · exact .inr bad

namespace Cover

/-- The first entry that stands for no number is the error of the whole cover. -/
lemma ofPoints_of_error {before after : List Value} {v : Value} {fault : NumberFault} (eps : Rat)
    (numbers : ∀ u ∈ before, ∃ q, u.toRat = .ok q) (fails : v.toRat = .error fault) :
    ofPoints (.listed ((before ++ v :: after).map .ok)) eps = .error (.number "point" fault) := by
  have entries : ((before ++ v :: after).map .ok).mapM (· >>= Value.real "point") =
      (before ++ v :: after).mapM (Value.real "point") := List.mapM_map
  have read :
      (before ++ v :: after).mapM (Value.real "point") = .error (.number "point" fault) := by
    refine mapM_eq_error (fun u hu => ?_) ?_
    · obtain ⟨q, stands⟩ := numbers u hu
      exact ⟨q, Value.real_of_toRat stands "point"⟩
    · rw [Value.real, fails]
      rfl
  rw [ofPoints, entries, read]
  rfl

end Cover

variable (cfg : Config)

/-- An endless sequence has measure zero, and none of its entries is looked at. -/
lemma outerMeasureCountable_endless (entry : Nat → Except Error Value) :
    outerMeasureCountable cfg (.endless entry) = .ok 0 := by
  refine Limit.affineLimit_of_share cfg.probes_valid zero_le_one fun t ht => ?_
  have positive := cfg.probes_valid.positive t ht
  obtain ⟨tail, built, declared, -⟩ := Cover.ofPoints_endless positive.le entry
  have sum : Cover.sum ⟨[], some tail⟩ = .ofPositivePart (t * 1) := by
    rw [mul_one, ENNRat.ofPositivePart_of_nonneg positive.le, ← declared]
    exact zero_add tail.total
  rw [built, ← sum]
  rfl

/-- Listed points that stand for numbers have measure zero. -/
lemma outerMeasureCountable_listed {vs : List Value} {qs : List Rat}
    (stand : vs.map Value.toRat = qs.map .ok) :
    outerMeasureCountable cfg (.listed (vs.map .ok)) = .ok 0 := by
  have share : 0 ≤ (1 : Rat) - 1 / 2 ^ qs.length := by
    have := Cover.halvings_nonneg zero_le_one qs.length
    rwa [one_mul] at this
  refine Limit.affineLimit_of_share cfg.probes_valid share fun t ht => ?_
  rw [Cover.ofPoints_listed t stand,
    ← Cover.total_mapIdx_pointTerm (cfg.probes_valid.positive t ht).le]
  rfl

/-- Sequences and lists of points have measure zero, and a list is refused at its first fault. -/
theorem outerMeasureCountable_exact :
    (∀ entry, outerMeasureCountable cfg (.endless entry) = .ok 0) ∧
      ∀ vs : List Value,
        (∃ qs : List Rat, vs.map Value.toRat = qs.map .ok ∧
          outerMeasureCountable cfg (.listed (vs.map .ok)) = .ok 0 ∧
            ∃ s, Given.points vs = .ok s ∧ (∀ x, x ∈ s ↔ x ∈ qs) ∧ outerMeasure cfg s = .ok 0) ∨
          ∃ before v after fault, vs = before ++ v :: after ∧ (∀ u ∈ before, ∃ q, u.toRat = .ok q) ∧
            v.toRat = .error fault ∧
            outerMeasureCountable cfg (.listed (vs.map .ok)) = .error (.number "point" fault) := by
  refine ⟨outerMeasureCountable_endless cfg, fun vs => ?_⟩
  rcases Value.forall_toRat_or vs with ⟨qs, stand⟩ | ⟨before, v, after, fault, rfl, numbers, fails⟩
  · refine .inl ⟨qs, stand, outerMeasureCountable_listed cfg stand, _, Given.points_eq stand,
      fun x => RealSet.mem_ofPoints, ?_⟩
    rw [outerMeasure_eq_extent, RealSet.extent_ofPoints]
  · refine .inr ⟨before, v, after, fault, rfl, numbers, fails, ?_⟩
    refine Limit.affineLimit_of_error cfg.probes_valid fun t _ => ?_
    rw [Cover.ofPoints_of_error t numbers fails]
    rfl

end LineMeasure
