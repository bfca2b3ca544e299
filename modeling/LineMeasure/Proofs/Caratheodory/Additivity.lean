import LineMeasure.Caratheodory.Split
import LineMeasure.Proofs.OuterMeasure.Value

/-!
# Every set is measurable

The outer measure is additive on every test set and every set (`outerMeasure_additive`), since the
extents of the two parts add up. What is asked of a set before its complement or a union is formed
is therefore always granted.
-/

namespace LineMeasure.Caratheodory

/-- A functional is additive when every set splits every test set additively. -/
def Additive (μ : Functional) : Prop :=
  ∀ test e, ∃ sp, split μ test e = .ok sp ∧ sp.additive = true

/-- The split of a test set by the outer measure. -/
lemma split_outerMeasure (cfg : Config) (test e : RealSet) :
    split (outerMeasure cfg) test e =
      .ok ⟨test, test.extent, (test ∩ e).extent, (test \ e).extent⟩ := by
  rw [split, outerMeasure_eq_extent, outerMeasure_eq_extent, outerMeasure_eq_extent]
  rfl

/-- The outer measure is an additive functional. -/
lemma additive_outerMeasure (cfg : Config) : Additive (outerMeasure cfg) := by
  intro test e
  refine ⟨_, split_outerMeasure cfg test e, ?_⟩
  exact decide_eq_true (RealSet.extent_inter_add_sdiff test e).symm

section
variable {μ : Functional} (additive : Additive μ)
include additive

/-- Under an additive functional a set passes the criterion on every list of test sets. -/
lemma Additive.splitsAll (e : RealSet) (tests : List RealSet) :
    splitsAll μ e (tests.map .ok) = .ok true := by
  induction tests with
  | nil => rfl
  | cons test tests ih =>
    obtain ⟨sp, splits, adds⟩ := additive test e
    rw [List.map_cons, Caratheodory.splitsAll]
    simp only [bind, Except.bind, splits, adds, if_true]
    exact ih

/-- Under an additive functional every set is measurable. -/
lemma Additive.isMeasurable (cfg : Config) (e : RealSet) : isMeasurable μ cfg e = .ok true :=
  additive.splitsAll e (defaultTests cfg e)

/-- Under an additive functional every set is accepted as measurable. -/
lemma Additive.requireMeasurable (cfg : Config) (e : RealSet) :
    requireMeasurable μ cfg e = .ok () := by
  rw [Caratheodory.requireMeasurable, additive.isMeasurable cfg e]
  rfl

/-- Under an additive functional every complement is formed. -/
lemma Additive.measurableComplement (cfg : Config) (e : RealSet) :
    measurableComplement μ cfg e = .ok e.complement := by
  rw [Caratheodory.measurableComplement, additive.requireMeasurable cfg e]
  rfl

/-- Under an additive functional every union is formed. -/
lemma Additive.measurableUnion (cfg : Config) (sets : List RealSet) :
    measurableUnion μ cfg sets = .ok (.unionOf sets) := by
  -- The loop asks for nothing but that its sets are measurable.
  have loop : (forIn sets PUnit.unit fun e _ => do
      Caratheodory.requireMeasurable μ cfg e
      pure (ForInStep.yield PUnit.unit)) = (.ok PUnit.unit : Except Error PUnit) := by
    induction sets with
    | nil => rfl
    | cons e sets ih =>
      rw [List.forIn_cons, additive.requireMeasurable cfg e]
      exact ih
  rw [Caratheodory.measurableUnion, loop, additive.requireMeasurable cfg (.unionOf sets)]
  rfl

end

/-- The outer measure is additive on every pair of sets. Every set passes the criterion on any test
sets, and complements and unions of measurable sets are formed without an error. -/
theorem outerMeasure_additive (cfg : Config) (e : RealSet) :
    (∀ test, ∃ sp, split (outerMeasure cfg) test e = .ok sp ∧ sp.testSet = test ∧
      outerMeasure cfg test = .ok sp.testMeasure ∧ outerMeasure cfg (test ∩ e) = .ok sp.inside ∧
      outerMeasure cfg (test \ e) = .ok sp.outside ∧ sp.testMeasure = sp.inside + sp.outside ∧
      sp.additive = true) ∧
    (∀ tests : List RealSet, splitsAll (outerMeasure cfg) e (tests.map .ok) = .ok true) ∧
    isMeasurable (outerMeasure cfg) cfg e = .ok true ∧
    measurableComplement (outerMeasure cfg) cfg e = .ok e.complement ∧
    ∀ sets, measurableUnion (outerMeasure cfg) cfg sets = .ok (.unionOf sets) := by
  have additive := additive_outerMeasure cfg
  refine ⟨?_, additive.splitsAll e, additive.isMeasurable cfg e,
    additive.measurableComplement cfg e, additive.measurableUnion cfg⟩
  intro test
  have adds : test.extent = (test ∩ e).extent + (test \ e).extent :=
    (RealSet.extent_inter_add_sdiff test e).symm
  refine ⟨_, split_outerMeasure cfg test e, rfl, outerMeasure_eq_extent cfg test,
    outerMeasure_eq_extent cfg (test ∩ e), outerMeasure_eq_extent cfg (test \ e), adds, ?_⟩
  exact decide_eq_true adds

end LineMeasure.Caratheodory
