import LineMeasure.Compactness.Certificate
import LineMeasure.OuterMeasure

/-!
# Reports on the outer measure

A report puts the value of the outer measure between two witnesses: the sum of a canonical cover,
which is not below it, and certificates that this cover includes each bounded piece, whose lengths
are not above it.
-/

namespace LineMeasure

/-- The outer measure of a set with its witnesses. -/
structure Report where
  set : RealSet
  value : ENNRat
  witnessEps : Rat
  witnessTotal : ENNRat
  certificates : List Certificate
  deriving DecidableEq

namespace Certificate

/-- The certificate as a part of a document. -/
def toJson (c : Certificate) : Json :=
  .object [("a", .text (Rational.text c.a)), ("b", .text (Rational.text c.b)),
    ("covered", .bool c.isCovered), ("x_star", .text (Rational.text c.reach)),
    ("terms_examined", .int c.termsExamined)]

end Certificate

namespace Report

/-- The report on a set. -/
def of (cfg : Config) (s : RealSet) : Except Error Report := do
  let value ← outerMeasure cfg s
  let witness := Cover.canonical s cfg.reportEps
  let pieces := (s.components.filterMap Interval.ends?).filter fun t => t.left < t.right
  let certificates ← pieces.mapM fun t => Compactness.certify cfg t.left t.right witness
  return ⟨s, value, cfg.reportEps, witness.sum, certificates⟩

/-- What the report shows, in words. -/
def details (r : Report) : String :=
  if r.certificates.all (·.isCovered) then
    "PASS: " ++ r.value.text ++ " <= mu* <= " ++ r.witnessTotal.text ++ " at eps="
      ++ Rational.text r.witnessEps
  else
    let failed := r.certificates.filter fun c => !c.isCovered
    "FAIL: witness does not cover components starting at "
      ++ ", ".intercalate (failed.map fun c => Rational.text c.a)

/-- The report as a document, with its certificates given as documents. -/
def toJsonWith (r : Report) (certificates : List Json) : Json :=
  .object [("set", r.set.toJson), ("value", .text r.value.text),
    ("witness_eps", .text (Rational.text r.witnessEps)),
    ("witness_total", .text r.witnessTotal.text),
    ("certificates", .array certificates), ("details", .text r.details)]

/-- The report as a document. -/
def toJson (r : Report) : Json :=
  r.toJsonWith (r.certificates.map Certificate.toJson)

end Report
end LineMeasure
