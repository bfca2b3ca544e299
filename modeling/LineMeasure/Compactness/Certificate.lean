import LineMeasure.Compactness.Sweep
import LineMeasure.Config
import LineMeasure.Cover.Basic

/-!
# Certificates for covers of an interval

A certificate says whether a cover includes `[a, b)`, and from which of its first terms this is
seen. The number of terms is doubled until they reach `b`, until the cover ends, or until the
allowed number is used up. When `[a, b)` is covered, the sum of the cover is at least `b - a`.
-/

namespace LineMeasure

/-- How the search for a certificate ended. -/
inductive Verdict where
  | vacuous
  | covered
  | gap
  | exhausted (budget : Nat)
  deriving DecidableEq

/-- What the first terms of a cover show about `[a, b)`, which they cover up to `reach`. -/
structure Certificate where
  a : Rat
  b : Rat
  verdict : Verdict
  reach : Rat
  coveredLength : Rat
  coverTotal : ENNRat
  termsExamined : Nat
  deriving DecidableEq

namespace Certificate

/-- Whether `[a, b)` is covered. -/
def isCovered (c : Certificate) : Bool :=
  c.verdict = .vacuous || c.verdict = .covered

/-- Whether the allowed number of terms was used up without a decision. -/
def isExhausted (c : Certificate) : Bool :=
  match c.verdict with
  | .exhausted _ => true
  | _ => false

/-- The length from `a` to the point that was reached. -/
def certifiedLength (c : Certificate) : Rat :=
  c.reach - c.a

/-- The lower bound that the certificate gives for the sum of the cover. -/
def lowerBound (c : Certificate) : ENNRat :=
  .ofPositivePart c.certifiedLength

/-- A point of `[a, b)` that is not covered, when the cover ended before `b`. -/
def gapWitness (c : Certificate) : Option Rat :=
  if c.verdict = .gap then some c.reach else none

/-- The interval of the certificate, as text. -/
def intervalText (c : Certificate) : String :=
  (Interval.ico c.a c.b).text

/-- The verdict in words. -/
def details (c : Certificate) : String :=
  match c.verdict with
  | .vacuous => c.intervalText ++ " is empty"
  | .covered =>
    "PASS: sum of lengths >= s(b) = " ++ Rational.text c.coveredLength ++ " >= "
      ++ Rational.text (c.b - c.a)
  | .gap => "point " ++ Rational.text c.reach ++ " of " ++ c.intervalText ++ " is not covered"
  | .exhausted budget =>
    "term budget " ++ toString budget ++ " exhausted at x*=" ++ Rational.text c.reach

end Certificate

namespace Compactness

/-- The numbers of terms that are tried one after the other: the powers of two below the limit, and
then the limit. -/
def budgets (limit : Nat) : List Nat :=
  ((List.range (Nat.log2 limit + 1)).map (Nat.pow 2)).filter (· < limit) ++ [limit]

/-- The verdict on the first terms of a cover that reach the point `reach`, when they settle the
matter: they reach `b`, or there are no more of them, or no more are allowed. -/
def verdict? (limit budget examined : Nat) (reach b : Rat) : Option Verdict :=
  if reach = b then some .covered
  else if examined < budget then some .gap
  else if limit ≤ examined then some (.exhausted limit)
  else none

/-- What is wrong with the terms examined, of a cover with the sum `total`, that reach the point
`reach`: they cover `[a, b)` and are too long for the sum, or stop inside one of themselves. -/
def fault? (a b reach : Rat) (total : ENNRat) (examined : List HalfOpen) :
    Option CompactnessFault :=
  if reach = b then
    if total < .ofPositivePart (b - a) then some (.belowLength total) else none
  else (examined.find? (reach ∈ ·.toInterval)).map fun t => .insideTerm reach t.toInterval

/-- What the first `budget` terms of a cover settle about `[a, b)`: a certificate, or nothing. -/
def examine (cfg : Config) (a b : Rat) (c : Cover) (budget : Nat) :
    Except Error (Option Certificate) := do
  let examined ← c.take budget
  let reach := firstUncovered a b examined
  match fault? a b reach c.sum examined with
  | some fault => throw (.compactness ⟨a, b⟩ fault)
  | none =>
    return (verdict? cfg.maxCoverTerms budget examined.length reach b).map fun verdict =>
      ⟨a, b, verdict, reach, coveredLength examined reach (some a), c.sum, examined.length⟩

/-- The certificate that the first of the budgets to settle the matter gives; the budgets that are
tried end with one that does. -/
def search (cfg : Config) (a b : Rat) (c : Cover) : List Nat → Except Error Certificate
  | [] => .ok ⟨a, b, .exhausted cfg.maxCoverTerms, a, 0, c.sum, 0⟩
  | budget :: rest => do
    match ← examine cfg a b c budget with
    | some cert => return cert
    | none => search cfg a b c rest

/-- The certificate of a cover for `[a, b)`. -/
def certify (cfg : Config) (a b : Rat) (c : Cover) : Except Error Certificate :=
  if b ≤ a then .ok ⟨a, b, .vacuous, a, 0, c.sum, 0⟩
  else search cfg a b c (budgets cfg.maxCoverTerms)

end Compactness
end LineMeasure
