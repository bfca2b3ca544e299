import LineMeasure.Given.Set
import LineMeasure.Proofs.OuterMeasure.Value
import LineMeasure.Proofs.RealSet.Overlap
import LineMeasure.Subadditivity

/-!
# Subadditivity on families of sets

The check of subadditivity always finds that it holds, on all of a family or on the first sets of
it, and its two sides are equal exactly when no two of the examined sets overlap in more than a set
of measure zero. It gives a result as long as the number of sets that it may examine can be asked
for (`checkSubadditivity_exact`), and more are refused.
-/

namespace LineMeasure

/-- The first entries of a listed sequence are read when all its entries can be. -/
lemma Sequence.read_listed {ε α : Type} (entries : List α) (count : Nat) :
    (listed (entries.map .ok)).read count = (.ok (entries.take count) : Except ε (List α)) := by
  rw [read, ← List.map_take, mapM_map_ok]

/-- The check on sets that have been read compares their extents. -/
lemma checkSubadditivity_eq {cfg : Config} {sets : Sequence (Except Error RealSet)}
    {count : Option Nat}
    {family : List RealSet} (allowed : count.getD cfg.maxCoverTerms ≤ Sequence.maxCount)
    (read : sets.read (count.getD cfg.maxCoverTerms) = .ok family) :
    checkSubadditivity cfg sets count =
      .ok ⟨(RealSet.unionOf family).extent, ENNRat.sum (family.map RealSet.extent),
        family.length⟩ := by
  have measures : family.map (outerMeasure cfg) = (family.map RealSet.extent).map .ok := by
    rw [List.map_map]
    exact List.map_congr_left fun s _ => outerMeasure_eq_extent cfg s
  have sum :
      ENNRat.tsum (family.map (outerMeasure cfg)) none =
        .ok (ENNRat.sum (family.map RealSet.extent)) := by
    rw [measures, ENNRat.tsum_map_ok]
  simp only [checkSubadditivity, if_neg (not_lt.2 allowed), read, bind, Except.bind,
    outerMeasure_eq_extent, sum]
  rfl

/-- The check always holds, with equality exactly when no two sets overlap in measure. -/
theorem checkSubadditivity_exact (cfg : Config) {given : List GivenSet} {family : List RealSet}
    (stands : given.map GivenSet.toRealSet = family.map .ok) (count : Option Nat) :
    Sequence.maxCount < count.getD cfg.maxCoverTerms ∧
        checkSubadditivity cfg (.listed (given.map GivenSet.toRealSet)) count = .error .count ∨
      count.getD cfg.maxCoverTerms ≤ Sequence.maxCount ∧
        ∃ r examined,
          checkSubadditivity cfg (.listed (given.map GivenSet.toRealSet)) count = .ok r ∧
          examined = family.take (count.getD cfg.maxCoverTerms) ∧ r.setsExamined = examined.length ∧
          outerMeasure cfg (.unionOf examined) = .ok r.unionMeasure ∧
          (∃ measures, examined.mapM (outerMeasure cfg) = .ok measures ∧
            r.sumOfMeasures = ENNRat.sum measures) ∧
          r.holds = true ∧
          (r.sumOfMeasures ≠ .infinite →
            (r.unionMeasure = r.sumOfMeasures ↔
              examined.Pairwise fun s t => outerMeasure cfg (s ∩ t) = .ok 0)) := by
  rw [stands]
  rcases lt_or_ge Sequence.maxCount (count.getD cfg.maxCoverTerms) with tooMany | allowed
  · refine .inl ⟨tooMany, ?_⟩
    simp only [checkSubadditivity, if_pos tooMany]
    rfl
  · have value :=
      checkSubadditivity_eq allowed (Sequence.read_listed family (count.getD cfg.maxCoverTerms))
    refine .inr ⟨allowed, _, _, value, rfl, rfl, outerMeasure_eq_extent cfg _, ?_, ?_, ?_⟩
    · exact ⟨_, mapM_eq_ok fun s _ => outerMeasure_eq_extent cfg s, rfl⟩
    · exact decide_eq_true (RealSet.extent_unionOf_le _)
    · intro finite
      simp only [outerMeasure_eq_extent, Except.ok.injEq]
      exact RealSet.extent_unionOf_eq_iff finite

/-- Two intervals that touch in a point, with a set that is cut off. -/
theorem checkSubadditivity_exact_touching :
    let given : List GivenSet :=
      [.interval (.ico 0 1), .interval ⟨some ⟨1, false⟩, some ⟨2, true⟩⟩, .set .line]
    let family : List RealSet :=
      [.ofIntervals [.ico 0 1], .ofIntervals [⟨some ⟨1, false⟩, some ⟨2, true⟩⟩], .line]
    given.map GivenSet.toRealSet = family.map .ok ∧
      ∃ r examined,
        checkSubadditivity .default (.listed (given.map GivenSet.toRealSet)) (some 2) = .ok r ∧
        examined = family.take 2 ∧ r.holds = true ∧
        (r.sumOfMeasures ≠ .infinite →
          (r.unionMeasure = r.sumOfMeasures ↔
            examined.Pairwise fun s t => outerMeasure .default (s ∩ t) = .ok 0)) := by
  intro given family
  have stands : given.map GivenSet.toRealSet = family.map .ok := rfl
  rcases checkSubadditivity_exact .default stands (some 2) with ⟨tooMany, -⟩ |
    ⟨-, r, examined, value, first, -, -, -, holds, equal⟩
  · exact absurd tooMany (by decide)
  · exact ⟨stands, r, examined, value, first, holds, equal⟩

/-- Parameters that are allowed can ask for more sets than the check can count, and then it fails,
even on a family of one interval. -/
theorem checkSubadditivity_tooManyTerms :
    let cfg : Config := { Config.default with
      maxCoverTerms := Sequence.maxCount + 1, maxCoverTerms_pos := Nat.succ_pos Sequence.maxCount }
    checkSubadditivity cfg (.listed [GivenSet.toRealSet (.interval (.ico 0 1))]) none =
      .error .count := by
  intro cfg
  rfl

end LineMeasure
