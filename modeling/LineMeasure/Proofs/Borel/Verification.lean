import LineMeasure.Borel.Generation
import LineMeasure.Proofs.Borel.Decompose

/-!
# What the check of generation asks

The partial unions of first terms always grow, and the partial intersections always shrink
(`growsInto_eq`, `shrinksTo_eq`); so the check of a countable operation asks for no more than that
each of these terms is included in the limit, or includes it (`growsInto_iff`, `shrinksTo_iff`). An
expression that converges passes it with any number of terms (`Converges.verify`), and hence every
set is found to be generated by rays (`isBorel_eq_true`).
-/

namespace LineMeasure.RayExpr

variable {term : Nat → RayExpr} {limit : RealSet} {e : RayExpr} {es : List RayExpr}
    {x : Rat} {n : Nat}

/-- A number belongs to a partial union when it belongs to one of the first terms. -/
lemma mem_partialUnion : x ∈ partialUnion term n ↔ ∃ k < n, x ∈ (term k).evaluate := by
  simp [partialUnion, RealSet.mem_unionOf]

lemma partialUnion_zero : partialUnion term 0 = ∅ := by
  ext x
  simp [mem_partialUnion]

/-- Partial unions grow. -/
lemma partialUnion_subset_succ : partialUnion term n ⊆ partialUnion term (n + 1) := by
  intro x hx
  obtain ⟨k, hk, member⟩ := mem_partialUnion.1 hx
  exact mem_partialUnion.2 ⟨k, Nat.lt_succ_of_lt hk, member⟩

lemma partialInter_succ : partialInter term (n + 1) = partialInter term n ∩ (term n).evaluate := by
  rw [partialInter, List.range_succ, List.foldl_append, List.foldl_cons, List.foldl_nil,
    ← partialInter]

/-- A number belongs to a partial intersection when it belongs to all of the first terms. -/
lemma mem_partialInter : x ∈ partialInter term n ↔ ∀ k < n, x ∈ (term k).evaluate := by
  induction n with
  | zero => simp [partialInter]
  | succ n ih => rw [partialInter_succ, RealSet.mem_inter, ih, Nat.forall_lt_succ_right]

/-- Partial intersections shrink. -/
lemma partialInter_succ_subset : partialInter term (n + 1) ⊆ partialInter term n := by
  intro x hx
  rw [partialInter_succ] at hx
  exact (RealSet.mem_inter.1 hx).1

/-- Partial results keep to a step relation when it holds from each of them to the next. -/
lemma keepsTo_iff {step : RealSet → RealSet → Bool} {result : Nat → RealSet} {index count : Nat} :
    keepsTo step result (result index) (index + 1) count = true ↔
      ∀ k < count, step (result (index + k)) (result (index + k + 1)) = true := by
  induction count generalizing index with
  | zero => simp [keepsTo]
  | succ count ih =>
    rw [keepsTo, Bool.and_eq_true, ih, Nat.forall_lt_succ_left]
    simp only [Nat.add_zero, Nat.add_right_comm index 1, Nat.add_assoc]

/-- Comparing partial unions with those before them plays no part, since they grow in any case. -/
lemma growsInto_eq (term : Nat → RayExpr) (limit : RealSet) (terms : Nat) :
    growsInto term limit terms =
      keepsTo (fun _ current => current.isSubset limit) (partialUnion term) ∅ 1 terms := by
  -- the check begins with the empty set, which is the union of no terms
  rw [growsInto, ← partialUnion_zero, Bool.eq_iff_iff, keepsTo_iff, keepsTo_iff]
  refine forall₂_congr fun k _ => ?_
  rw [Bool.and_eq_true, RealSet.isSubset_iff]
  exact and_iff_right partialUnion_subset_succ

/-- The partial unions grow into the limit exactly when it includes each of the first terms. -/
theorem growsInto_iff {terms : Nat} :
    growsInto term limit terms = true ↔ ∀ k < terms, (term k).evaluate ⊆ limit := by
  rw [growsInto_eq, ← partialUnion_zero, keepsTo_iff]
  simp only [Nat.zero_add, RealSet.isSubset_iff]
  constructor
  · intro within k hk x hx
    exact within k hk x (mem_partialUnion.2 ⟨k, k.lt_succ_self, hx⟩)
  · intro within k hk x hx
    obtain ⟨j, hj, member⟩ := mem_partialUnion.1 hx
    exact within j (lt_of_lt_of_le hj hk) x member

/-- Comparing partial intersections with those before them plays no part, since they shrink. -/
lemma shrinksTo_eq (term : Nat → RayExpr) (limit : RealSet) (terms : Nat) :
    shrinksTo term limit terms =
      keepsTo (fun _ current => limit.isSubset current) (partialInter term) .line 1 terms := by
  have start : RealSet.line = partialInter term 0 := rfl
  rw [shrinksTo, start, Bool.eq_iff_iff, keepsTo_iff, keepsTo_iff]
  refine forall₂_congr fun k _ => ?_
  rw [Bool.and_eq_true, RealSet.isSubset_iff]
  exact and_iff_right partialInter_succ_subset

/-- The partial intersections shrink towards the limit exactly when all first terms include it. -/
theorem shrinksTo_iff {terms : Nat} :
    shrinksTo term limit terms = true ↔ ∀ k < terms, limit ⊆ (term k).evaluate := by
  have start : RealSet.line = partialInter term 0 := rfl
  rw [shrinksTo_eq, start, keepsTo_iff]
  simp only [Nat.zero_add, RealSet.isSubset_iff]
  constructor
  · intro within k hk x hx
    exact mem_partialInter.1 (within k hk x hx) k k.lt_succ_self
  · intro within k hk x hx
    exact mem_partialInter.2 fun j hj => within j (lt_of_lt_of_le hj hk) x hx

/-- The expressions of a list are checked one by one. -/
lemma verifyAll_iff {terms : Nat} :
    verifyAll terms es = true ↔ ∀ e ∈ es, e.verify terms = true := by
  induction es with
  | nil => simp [verifyAll]
  | cons e es ih => simp [verifyAll, ih]

/-- An expression that converges passes the check. -/
theorem Converges.verify (h : Converges e) (terms : Nat) : e.verify terms = true := by
  induction h with
  | ray c => rfl
  | complement _ ih =>
    rw [RayExpr.verify]
    exact ih
  | difference _ _ ihd ihe => rw [RayExpr.verify, ihd, ihe, Bool.and_self]
  | union _ ih =>
    rw [RayExpr.verify]
    exact verifyAll_iff.2 ih
  | countableUnion converge limit_iff ih =>
    rw [RayExpr.verify, Bool.and_eq_true, growsInto_iff, List.all_eq_true]
    refine ⟨fun k _ x hx => ?_, fun k _ => ih k⟩
    exact (limit_iff x).2 ⟨k, (converge k).mem_evaluate.1 hx⟩
  | countableInter converge limit_iff ih =>
    rw [RayExpr.verify, Bool.and_eq_true, shrinksTo_iff, List.all_eq_true]
    refine ⟨fun k _ x hx => ?_, fun k _ => ih k⟩
    exact (converge k).mem_evaluate.2 ((limit_iff x).1 hx k)

end LineMeasure.RayExpr

namespace LineMeasure

/-- Every set is found to be generated by rays. -/
theorem isBorel_eq_true (cfg : Config) (s : RealSet) : isBorel cfg s = true := by
  simp [isBorel, RayExpr.evaluate_ofSet, (RayExpr.converges_ofSet s).verify]

end LineMeasure
