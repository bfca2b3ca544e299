import LineMeasure.ENNRat.Basic

/-!
# Sums and bounds of sequences

The terms of a sequence are read from left to right, and reading a term may fail. A sum stops at the
first infinite term, since the partial sums only grow: what stands after it is never read.
-/

namespace LineMeasure.ENNRat

/-- The sum of the terms of a list, added to `start`; it ends at the first infinite term. -/
def sumFrom {ε : Type} (start : ENNRat) : List (Except ε ENNRat) → Except ε ENNRat
  | [] => .ok start
  | term :: rest =>
    match term with
    | .error e => .error e
    | .ok infinite => .ok infinite
    | .ok (finite value nonneg) => sumFrom (start + finite value nonneg) rest

/-- The sum of a sequence, or of its first `count` terms. -/
def tsum {ε : Type} (terms : List (Except ε ENNRat)) (count : Option Nat) : Except ε ENNRat :=
  sumFrom 0 (count.elim terms (terms.take ·))

/-- The sum of a list of numbers. -/
def sum (terms : List ENNRat) : ENNRat :=
  terms.foldl (· + ·) 0

/-- The least upper bound of a list; zero for the empty one. -/
def supremum (values : List ENNRat) : ENNRat :=
  values.foldl larger 0

/-- The greatest lower bound of a list; infinity for the empty one. -/
def infimum (values : List ENNRat) : ENNRat :=
  values.foldl smaller infinite

theorem foldl_add_infinite (terms : List ENNRat) : terms.foldl (· + ·) infinite = infinite := by
  induction terms with
  | nil => rfl
  | cons a terms ih => simpa using ih

/-- On numbers that are all read, the early end of a sum does not show. -/
theorem sumFrom_map_ok {ε : Type} (start : ENNRat) (terms : List ENNRat) :
    sumFrom (ε := ε) start (terms.map .ok) = .ok (terms.foldl (· + ·) start) := by
  induction terms generalizing start with
  | nil => rfl
  | cons a terms ih =>
    cases a with
    | finite value nonneg => simp [sumFrom, ih]
    | infinite => simp [sumFrom, foldl_add_infinite]

/-- The sum of a list is the sum of its terms as a sequence. -/
theorem tsum_map_ok {ε : Type} (terms : List ENNRat) :
    tsum (ε := ε) (terms.map .ok) none = .ok (sum terms) :=
  sumFrom_map_ok 0 terms

end LineMeasure.ENNRat
