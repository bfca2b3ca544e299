import LineMeasure.Config
import LineMeasure.Cover.Canonical
import LineMeasure.Cover.Points

/-!
# Outer measure

The outer measure of a set is the infimum of the sums of the covers that include it. It is found as
the limit of the sums of the canonical covers, when their excess goes to zero along the probes. Any
cover that includes the set gives an upper bound. Countable sets have covers of any small sum.
-/

namespace LineMeasure

/-- The sum of a cover as an upper bound; the cover has to include the set. -/
def outerMeasureUpperBound (cfg : Config) (s : RealSet) (c : Cover) : Except Error ENNRat := do
  if ← c.covers s (some cfg.maxCoverTerms) then return c.sum
  else throw (.cover (.uncovered s))

/-- The outer measure of a set. -/
def outerMeasure (cfg : Config) (s : RealSet) : Except Error ENNRat :=
  if s.isEmpty then .ok 0
  else Limit.affineLimit (fun eps => outerMeasureUpperBound cfg s (.canonical s eps))
    cfg.limitProbes

/-- The outer measure of the set of the points of a sequence. -/
def outerMeasureCountable (cfg : Config) (points : Sequence (Except Error Value)) :
    Except Error ENNRat :=
  Limit.affineLimit (fun eps => do return (← Cover.ofPoints points eps).sum) cfg.limitProbes

end LineMeasure
