import LineMeasure.Lebesgue
import LineMeasure.Proofs.Borel.Verification
import LineMeasure.Proofs.Caratheodory.Ray

/-!
# Lebesgue measure is the outer measure

Every set is found to be generated by rays, and all rays are measurable. So the tests that a set has
to pass before it is measured never refuse one, and its measure is its outer measure
(`measure_eq_outerMeasure`).
-/

namespace LineMeasure.Lebesgue

/-- The rays below any points are measurable. -/
lemma raysMeasurable_outerMeasure (cfg : Config) (cs : List Rat) :
    raysMeasurable (outerMeasure cfg) cfg (cs.map .ok) = .ok true := by
  induction cs with
  | nil => rfl
  | cons c cs ih =>
    rw [List.map_cons, raysMeasurable]
    simp only [bind, Except.bind, Caratheodory.isRayMeasurable_outerMeasure, if_true]
    exact ih

/-- The measure of a set is its outer measure. -/
lemma measure_eq_outerMeasure (cfg : Config) (s : RealSet) :
    measure (.standard cfg) cfg s = outerMeasure cfg s := by
  have generated : (Tests.standard cfg).isBorel s = true := isBorel_eq_true cfg s
  have measurable :
      raysMeasurable (Tests.standard cfg).functional cfg
        ((generatingCutpoints cfg s).map Except.ok) = .ok true :=
    raysMeasurable_outerMeasure cfg (generatingCutpoints cfg s)
  simp [measure, generated, measurable, bind, Except.bind]

/-- With any parameters, every set is found to be generated by rays, the rays that generate it are
measurable, and its measure is its outer measure, which is a number; and so it is for intervals. -/
theorem measure_restricts (cfg : Config) :
    (∀ s, isBorel cfg s = true ∧
      raysMeasurable (outerMeasure cfg) cfg ((generatingCutpoints cfg s).map .ok) = .ok true ∧
      ∃ m, outerMeasure cfg s = .ok m ∧ measure (.standard cfg) cfg s = .ok m) ∧
    ∀ i, ∃ m, outerMeasure cfg (.ofIntervals [i]) = .ok m ∧
      measureInterval (.standard cfg) cfg i = .ok m := by
  have measured (s : RealSet) :
      ∃ m, outerMeasure cfg s = .ok m ∧ measure (.standard cfg) cfg s = .ok m := by
    refine ⟨s.extent, outerMeasure_eq_extent cfg s, ?_⟩
    rw [measure_eq_outerMeasure, outerMeasure_eq_extent]
  refine ⟨fun s => ⟨isBorel_eq_true cfg s, raysMeasurable_outerMeasure cfg _, measured s⟩,
    fun i => ?_⟩
  exact measured (.ofIntervals [i])

end LineMeasure.Lebesgue
