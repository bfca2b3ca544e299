import LineMeasure.Caratheodory.Split
import LineMeasure.Proofs.ENNRat.Embedding
import LineMeasure.Proofs.RealSet.Boundary

/-!
# A set and its complement pass the criterion together

The parts of a test set inside and outside a set change places when the set is replaced by its
complement. So do the two values that the criterion adds up, whatever the functional is. The family
of test sets is the same up to its order, since it is built on the break points, which a set shares
with its complement (`defaultTests_complement`). So whenever the complement of a set is formed, the
complement of the result is formed as well, and it is the set.
-/

namespace LineMeasure.Caratheodory

/-- The functional with a given value for every set. -/
def Functional.ofValues (φ : RealSet → ENNRat) : Functional :=
  fun s => .ok (φ s)

variable {φ : RealSet → ENNRat} {cfg : Config} {e test : RealSet}

/-- Whether the values of the two parts of a test set add up to its own. -/
def adds (φ : RealSet → ENNRat) (e test : RealSet) : Bool :=
  decide (φ test = φ (test ∩ e) + φ (test \ e))

/-- The part inside the complement of a set is the part outside the set, and the other way round. -/
lemma adds_complement (φ : RealSet → ENNRat) (e : RealSet) : adds φ e.complement = adds φ e := by
  funext test
  have inside : test ∩ e.complement = test \ e := rfl
  rw [adds, adds, inside, RealSet.sdiff_complement, add_comm]

-- with given values no lookup fails, so that a test only decides whether the next ones follow
lemma splitsAll_cons (tests : List (Except Error RealSet)) :
    splitsAll (.ofValues φ) e (.ok test :: tests) =
      if adds φ e test then splitsAll (.ofValues φ) e tests else .ok false :=
  rfl

/-- On test sets the criterion is that the values add up on all of them. -/
lemma splitsAll_map_ok (φ : RealSet → ENNRat) (e : RealSet) (tests : List RealSet) :
    splitsAll (.ofValues φ) e (tests.map .ok) = .ok (tests.all (adds φ e)) := by
  induction tests with
  | nil => rfl
  | cons test tests ih =>
    rw [List.map_cons, splitsAll_cons, ih, List.all_cons]
    cases adds φ e test <;> rfl

lemma grid_complement (cfg : Config) (e : RealSet) : grid cfg e.complement = grid cfg e := by
  rw [grid, grid, RealSet.breakpoints_complement]

/-- The family of test sets of a set has those of its complement, in another order. -/
lemma defaultTests_complement (cfg : Config) (e : RealSet) :
    (defaultTests cfg e.complement).Perm (defaultTests cfg e) := by
  rw [defaultTests, defaultTests, grid_complement, RealSet.complement_complement]
  exact ((List.Perm.swap e e.complement []).cons RealSet.line).append_right _

/-- A set is measurable when the values add up on all sets of its family. -/
lemma isMeasurable_ofValues (φ : RealSet → ENNRat) (cfg : Config) (e : RealSet) :
    isMeasurable (.ofValues φ) cfg e = .ok ((defaultTests cfg e).all (adds φ e)) :=
  splitsAll_map_ok φ e (defaultTests cfg e)

/-- A set passes the criterion exactly when its complement does. -/
lemma isMeasurable_complement (φ : RealSet → ENNRat) (cfg : Config) (e : RealSet) :
    isMeasurable (.ofValues φ) cfg e.complement = isMeasurable (.ofValues φ) cfg e := by
  rw [isMeasurable_ofValues, isMeasurable_ofValues, adds_complement,
    (defaultTests_complement cfg e).all_eq]

/-- The complement of a set is formed when the set passes the criterion. -/
lemma measurableComplement_eq_ok {r : RealSet} :
    measurableComplement (.ofValues φ) cfg e = .ok r ↔
      isMeasurable (.ofValues φ) cfg e = .ok true ∧ r = e.complement := by
  rw [measurableComplement, requireMeasurable, isMeasurable_ofValues]
  cases (defaultTests cfg e).all (adds φ e) with
  | true =>
    exact ⟨fun formed => ⟨rfl, (Except.ok.inj formed).symm⟩, fun h => congrArg Except.ok h.2.symm⟩
  | false => exact ⟨nofun, nofun⟩

/-- For any functional a set and its complement pass the criterion on the same test sets. -/
theorem criterion_complement (φ : RealSet → ENNRat) (cfg : Config) (e : RealSet) :
    (∀ tests : List RealSet, ∃ verdict, splitsAll (.ofValues φ) e (tests.map .ok) = .ok verdict ∧
      splitsAll (.ofValues φ) e.complement (tests.map .ok) = .ok verdict ∧
      (verdict = true ↔ ∀ test ∈ tests, φ test = φ (test ∩ e) + φ (test \ e))) ∧
    (∃ verdict, isMeasurable (.ofValues φ) cfg e = .ok verdict ∧
      isMeasurable (.ofValues φ) cfg e.complement = .ok verdict ∧
      (verdict = true ↔ ∀ test ∈ defaultTests cfg e, φ test = φ (test ∩ e) + φ (test \ e))) ∧
    ∀ r, measurableComplement (.ofValues φ) cfg e = .ok r →
      measurableComplement (.ofValues φ) cfg r = .ok e := by
  have adds_all (tests : List RealSet) :
      tests.all (adds φ e) = true ↔ ∀ test ∈ tests, φ test = φ (test ∩ e) + φ (test \ e) := by
    simp [adds]
  refine ⟨fun tests => ?_, ?_, fun r formed => ?_⟩
  · have verdict := splitsAll_map_ok φ e tests
    have mirrored := splitsAll_map_ok φ e.complement tests
    rw [adds_complement] at mirrored
    exact ⟨_, verdict, mirrored, adds_all tests⟩
  · have verdict := isMeasurable_ofValues φ cfg e
    exact ⟨_, verdict, (isMeasurable_complement φ cfg e).trans verdict,
      adds_all (defaultTests cfg e)⟩
  · obtain ⟨measurable, rfl⟩ := measurableComplement_eq_ok.1 formed
    rw [measurableComplement_eq_ok, isMeasurable_complement]
    exact ⟨measurable, (RealSet.complement_complement e).symm⟩

/-- A unit mass at zero is additive on all sets, so it lets the unit interval have a complement. -/
theorem criterion_complement_massAtZero :
    let mass : RealSet → ENNRat := fun s => if (0 : Rat) ∈ s then 1 else 0
    let e : RealSet := .ofIntervals [.ico 0 1]
    measurableComplement (.ofValues mass) .default e = .ok e.complement ∧
      measurableComplement (.ofValues mass) .default e.complement = .ok e := by
  intro mass e
  have additive (test : RealSet) : adds mass e test = true := by
    by_cases inTest : (0 : Rat) ∈ test <;> by_cases inside : (0 : Rat) ∈ e <;>
      simp [adds, mass, RealSet.mem_inter, RealSet.mem_sdiff, inTest, inside]
  have measurable : isMeasurable (.ofValues mass) .default e = .ok true := by
    rw [isMeasurable_ofValues, List.all_eq_true.2 fun test _ => additive test]
  have formed := measurableComplement_eq_ok.2 ⟨measurable, rfl⟩
  exact ⟨formed, (criterion_complement mass .default e).2.2 _ formed⟩

end LineMeasure.Caratheodory
