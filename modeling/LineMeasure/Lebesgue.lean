import LineMeasure.Borel.Generation
import LineMeasure.Caratheodory.Ray

/-!
# Lebesgue measure

The outer measure, restricted to sets that are generated by rays. Before a set is measured, the rays
that generate it are tested for measurability; so all sets that they generate are measurable. The
tests, for generation and for measurability, are parameters, and `Tests.standard` holds the usual
ones.
-/

namespace LineMeasure.Lebesgue

/-- The tests that a set has to pass. -/
structure Tests where
  functional : Caratheodory.Functional
  isBorel : RealSet → Bool

/-- The outer measure as the functional, and generation by rays. -/
def Tests.standard (cfg : Config) : Tests :=
  ⟨outerMeasure cfg, LineMeasure.isBorel cfg⟩

/-- Whether all rays below the given points are measurable; the first that is not ends the check. -/
def raysMeasurable (μ : Caratheodory.Functional) (cfg : Config) : List (Except Error Rat) →
    Except Error Bool
  | [] => .ok true
  | c :: rest => do
    if ← Caratheodory.isRayMeasurable μ cfg (← c) then raysMeasurable μ cfg rest else return false

/-- The measure of a set. -/
def measure (tests : Tests) (cfg : Config) (s : RealSet) : Except Error ENNRat := do
  if !tests.isBorel s then throw (.notBorel s)
  let cutpoints := (generatingCutpoints cfg s).map Except.ok
  if !(← raysMeasurable tests.functional cfg cutpoints) then throw (.raysNotMeasurable s)
  outerMeasure cfg s

/-- The measure of an interval. -/
def measureInterval (tests : Tests) (cfg : Config) (i : Interval) : Except Error ENNRat :=
  measure tests cfg (.ofIntervals [i])

/-- The measure of one point, as the measure of `[a, a + 1)` less that of `(a, a + 1)`. -/
def measureSingleton (tests : Tests) (cfg : Config) (a : Rat) : Except Error ENNRat := do
  let whole ← measureInterval tests cfg (.ico a (a + 1))
  let inner ← measureInterval tests cfg ⟨some ⟨a, false⟩, some ⟨a + 1, false⟩⟩
  return whole - inner

/-- The measure of `(a, b)`, as the limit of the measures of half-open intervals inside it. -/
def measureOpen (tests : Tests) (cfg : Config) (a b : Rat) : Except Error ENNRat :=
  if b ≤ a then .ok 0
  else
    Limit.affineLimit (fun t => measureInterval tests cfg (.ico (a + t * (b - a)) b))
      cfg.limitProbes

/-- The measures of `[a, m)` and `[m, b)`; the point `m` has to lie between `a` and `b`. -/
def measureSplit (tests : Tests) (cfg : Config) (a m b : Rat) : Except Error (ENNRat × ENNRat) := do
  if !(a ≤ m && m ≤ b) then throw (.splitPoint a b m)
  return (← measureInterval tests cfg (.ico a m), ← measureInterval tests cfg (.ico m b))

end LineMeasure.Lebesgue
