import LineMeasure.RealSet.Basic

/-!
# Expressions over rays

Sets generated from the rays `(-∞, c)` by complements, differences, finite unions, and countable
unions and intersections. A countable operation has a term for every index and declares its limit;
its value is the declared limit, and its partial results are computed from its first terms.
-/

namespace LineMeasure

/-- An expression for a set over the rays below rational points. -/
inductive RayExpr where
  | ray (c : Rat)
  | complement (inner : RayExpr)
  | difference (minuend subtrahend : RayExpr)
  | union (parts : List RayExpr)
  | countableUnion (term : Nat → RayExpr) (limit : RealSet)
  | countableInter (term : Nat → RayExpr) (limit : RealSet)
  deriving Inhabited

namespace RayExpr

mutual

/-- The value of an expression. -/
def evaluate : RayExpr → RealSet
  | ray c => .ofIntervals [.rayBelow c]
  | complement inner => inner.evaluate.complement
  | difference minuend subtrahend => minuend.evaluate \ subtrahend.evaluate
  | union parts => .unionOf (evaluateAll parts)
  | countableUnion _ limit => limit
  | countableInter _ limit => limit

/-- The values of a list of expressions. -/
def evaluateAll : List RayExpr → List RealSet
  | [] => []
  | e :: rest => e.evaluate :: evaluateAll rest

end

mutual

/-- The points of the rays in an expression, from left to right; of a countable operation, those of
its first `depth` terms. -/
def cutpoints (depth : Nat) : RayExpr → List Rat
  | ray c => [c]
  | complement inner => inner.cutpoints depth
  | difference minuend subtrahend => minuend.cutpoints depth ++ subtrahend.cutpoints depth
  | union parts => cutpointsOfAll depth parts
  | countableUnion term _ => (List.range depth).flatMap fun k => (term k).cutpoints depth
  | countableInter term _ => (List.range depth).flatMap fun k => (term k).cutpoints depth

/-- The points of the rays in a list of expressions. -/
def cutpointsOfAll (depth : Nat) : List RayExpr → List Rat
  | [] => []
  | e :: rest => e.cutpoints depth ++ cutpointsOfAll depth rest

end

/-- The union of the values of the first `n` terms. -/
def partialUnion (term : Nat → RayExpr) (n : Nat) : RealSet :=
  .unionOf ((List.range n).map fun k => (term k).evaluate)

/-- The intersection of the values of the first `n` terms; the whole line when there are none. -/
def partialInter (term : Nat → RayExpr) (n : Nat) : RealSet :=
  (List.range n).foldl (fun s k => s ∩ (term k).evaluate) .line

end RayExpr
end LineMeasure
