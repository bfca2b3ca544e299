import LineMeasure.Limit.Affine

/-!
# Parameters of a computation

The probes on which limits are taken, the number of terms of an endless cover that are looked at,
the margin of the grid of test sets, the number of terms of a countable operation that are checked,
and the excess of the witness cover in a report. A `Config` holds parameters that are allowed;
`Config.of` checks raw ones, in a fixed order.
-/

namespace LineMeasure

/-- Parameters that are allowed. -/
structure Config where
  limitProbes : List Rat
  maxCoverTerms : Nat
  testGridPadding : Rat
  generationProbeTerms : Nat
  reportEps : Rat
  probes_valid : Limit.ValidProbes limitProbes
  probes_le_one : ∀ t ∈ limitProbes, t ≤ 1
  maxCoverTerms_pos : 0 < maxCoverTerms
  testGridPadding_pos : 0 < testGridPadding
  generationProbeTerms_pos : 0 < generationProbeTerms
  reportEps_pos : 0 < reportEps

/-- Raw parameters; each may be left out. -/
structure RawConfig where
  limitProbes : Option (List Value)
  maxCoverTerms : Option Int
  testGridPadding : Option Rat
  generationProbeTerms : Option Int
  reportEps : Option Rat

namespace Config

/-- The probes that are used when none are given. -/
def defaultProbes : List Rat :=
  [1, 1 / 2, 1 / 4]

/-- Checks probes that have been read. -/
def checkProbes (probes : List Rat) :
    Except Error { ts : List Rat // Limit.ValidProbes ts ∧ ∀ t ∈ ts, t ≤ 1 } :=
  if enough : 3 ≤ probes.length then
    if range : ∀ t ∈ probes, 0 < t ∧ t ≤ 1 then
      if decreasing : Rational.isDecreasing probes = true then
        .ok ⟨probes, ⟨enough, fun t ht => (range t ht).1, decreasing⟩, fun t ht => (range t ht).2⟩
      else .error (.config (.probesNotDecreasing probes))
    else .error (.config (.probesOutOfRange probes))
  else .error (.config (.tooFewProbes probes.length))

/-- Checks that a count is positive. -/
def checkCount (fault : Int → ConfigFault) (n : Int) : Except Error { k : Nat // 0 < k } :=
  if h : 0 < n.toNat then .ok ⟨n.toNat, h⟩ else .error (.config (fault n))

/-- Checks that a number is positive. -/
def checkPositive (fault : Rat → ConfigFault) (q : Rat) : Except Error { q : Rat // 0 < q } :=
  if h : 0 < q then .ok ⟨q, h⟩ else .error (.config (fault q))

/-- The parameters, when they are allowed. -/
def of (raw : RawConfig) : Except Error Config := do
  let given ← (raw.limitProbes.getD (defaultProbes.map .rational)).mapM (Value.real "limit probe")
  let probes ← checkProbes given
  let coverTerms ← checkCount .coverTerms (raw.maxCoverTerms.getD 4096)
  let probeTerms ← checkCount .probeTerms (raw.generationProbeTerms.getD 4)
  let padding ← checkPositive .padding (raw.testGridPadding.getD 1)
  let reportEps ← checkPositive .reportEps (raw.reportEps.getD (1 / 1000))
  return {
    limitProbes := probes.1
    maxCoverTerms := coverTerms.1
    testGridPadding := padding.1
    generationProbeTerms := probeTerms.1
    reportEps := reportEps.1
    probes_valid := probes.2.1
    probes_le_one := probes.2.2
    maxCoverTerms_pos := coverTerms.2
    testGridPadding_pos := padding.2
    generationProbeTerms_pos := probeTerms.2
    reportEps_pos := reportEps.2 }

/-- The parameters that are used when none are given. -/
def default : Config where
  limitProbes := defaultProbes
  maxCoverTerms := 4096
  testGridPadding := 1
  generationProbeTerms := 4
  reportEps := 1 / 1000
  probes_valid := ⟨by decide, by decide +kernel, by decide +kernel⟩
  probes_le_one := by decide +kernel
  maxCoverTerms_pos := by decide
  testGridPadding_pos := by decide
  generationProbeTerms_pos := by decide
  reportEps_pos := by decide +kernel

end Config
end LineMeasure
