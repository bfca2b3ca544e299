import LineMeasure.Borel.Decompose
import LineMeasure.Config
import LineMeasure.Error

/-!
# Generation by rays

A countable operation is checked on its first terms: the partial unions grow and stay inside the
declared limit, the partial intersections shrink and keep including it. An expression is checked
together with all of its parts. A set is generated by rays when its expression has it as its value
and passes this check.
-/

namespace LineMeasure.RayExpr

/-- Whether so many partial results from an index on, each compared with the one before, keep to a
step relation. -/
def keepsTo (step : RealSet → RealSet → Bool) (result : Nat → RealSet) (previous : RealSet)
    (index : Nat) : Nat → Bool
  | 0 => true
  | count + 1 =>
    let current := result index
    step previous current && keepsTo step result current (index + 1) count

/-- Whether the partial unions of the first terms grow and stay inside the limit. -/
def growsInto (term : Nat → RayExpr) (limit : RealSet) (terms : Nat) : Bool :=
  keepsTo (fun previous current => previous.isSubset current && current.isSubset limit)
    (partialUnion term) ∅ 1 terms

/-- Whether the partial intersections of the first terms shrink and include the limit. -/
def shrinksTo (term : Nat → RayExpr) (limit : RealSet) (terms : Nat) : Bool :=
  keepsTo (fun previous current => current.isSubset previous && limit.isSubset current)
    (partialInter term) .line 1 terms

mutual

/-- Checks the countable operations of an expression on their first terms, and the parts of the
expression in the same way. -/
def verify (terms : Nat) : RayExpr → Bool
  | ray _ => true
  | complement inner => inner.verify terms
  | difference minuend subtrahend => minuend.verify terms && subtrahend.verify terms
  | union parts => verifyAll terms parts
  | countableUnion term limit =>
    growsInto term limit terms && (List.range terms).all fun k => (term k).verify terms
  | countableInter term limit =>
    shrinksTo term limit terms && (List.range terms).all fun k => (term k).verify terms

/-- Checks the expressions of a list. -/
def verifyAll (terms : Nat) : List RayExpr → Bool
  | [] => true
  | e :: rest => e.verify terms && verifyAll terms rest

end

end LineMeasure.RayExpr

namespace LineMeasure

/-- Whether a set is generated by rays. -/
def isBorel (cfg : Config) (s : RealSet) : Bool :=
  let e := RayExpr.ofSet s
  e.evaluate = s && e.verify cfg.generationProbeTerms

/-- The points of the rays that generate a set, in increasing order. -/
def generatingCutpoints (cfg : Config) (s : RealSet) : List Rat :=
  Rational.increasing ((RayExpr.ofSet s).cutpoints cfg.generationProbeTerms)

end LineMeasure
