import LineMeasure.OuterMeasure

/-!
# Subadditivity and monotonicity

Two laws of the outer measure, checked on given sets: the measure of a union is at most the sum of
the measures, and the measure of a set is at most that of a larger one.
-/

namespace LineMeasure

/-- What a check of subadditivity has found. -/
structure SubadditivityResult where
  unionMeasure : ENNRat
  sumOfMeasures : ENNRat
  setsExamined : Nat
  deriving DecidableEq

namespace SubadditivityResult

/-- Whether the measure of the union is at most the sum. -/
def holds (r : SubadditivityResult) : Bool :=
  decide (r.unionMeasure ≤ r.sumOfMeasures)

/-- The two sides in words. -/
def details (r : SubadditivityResult) : String :=
  "mu*(union)=" ++ r.unionMeasure.text ++ ", sum=" ++ r.sumOfMeasures.text

end SubadditivityResult

/-- Checks subadditivity on the first sets of a family; without a count, on as many as an endless
cover may have terms. -/
def checkSubadditivity (cfg : Config) (sets : Sequence (Except Error RealSet))
    (count : Option Nat) :
    Except Error SubadditivityResult := do
  let count := count.getD cfg.maxCoverTerms
  if Sequence.maxCount < count then throw .count
  let family ← sets.read count
  let unionMeasure ← outerMeasure cfg (.unionOf family)
  let sumOfMeasures ← ENNRat.tsum (family.map (outerMeasure cfg)) none
  return ⟨unionMeasure, sumOfMeasures, family.length⟩

/-- Checks monotonicity on two sets, the first of which has to be a subset of the second. -/
def checkMonotonicity (cfg : Config) (s t : RealSet) : Except Error Bool := do
  if !s.isSubset t then throw (.notSubset s t)
  return decide ((← outerMeasure cfg s) ≤ (← outerMeasure cfg t))

end LineMeasure
