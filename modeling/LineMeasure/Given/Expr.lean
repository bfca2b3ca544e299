import LineMeasure.Borel.Generation
import LineMeasure.Given.Set

/-!
# Expressions over rays with given points

Expressions may be given with rays whose points are any values. A point is read when its ray is
evaluated, so what is no number does no harm as long as only the points are listed or the rays are
checked. What is given instead of an expression is kept by the name of its kind, and a term that
could not be made by its error.
-/

namespace LineMeasure

/-- An expression for a set over rays with given points. -/
inductive GivenExpr where
  | ray (c : Value)
  | complement (inner : GivenExpr)
  | difference (minuend subtrahend : GivenExpr)
  | union (parts : List GivenExpr)
  | countableUnion (term : Nat → GivenExpr) (limit : RealSet)
  | countableInter (term : Nat → GivenExpr) (limit : RealSet)
  | foreign (kind : String)
  | failed (error : Error)

namespace GivenExpr

mutual

/-- An expression over rational points as a given one. -/
def ofExpr : RayExpr → GivenExpr
  | .ray c => ray (.rational c)
  | .complement inner => complement (ofExpr inner)
  | .difference minuend subtrahend => difference (ofExpr minuend) (ofExpr subtrahend)
  | .union parts => union (ofExprs parts)
  | .countableUnion term limit => countableUnion (fun n => ofExpr (term n)) limit
  | .countableInter term limit => countableInter (fun n => ofExpr (term n)) limit

/-- A list of expressions over rational points as given ones. -/
def ofExprs : List RayExpr → List GivenExpr
  | [] => []
  | e :: rest => ofExpr e :: ofExprs rest

end

mutual

/-- The value of an expression. -/
def evaluate : GivenExpr → Except Error RealSet
  | ray c => do return .ofIntervals [← Given.interval (.rayBelow c)]
  | complement inner => do return (← inner.evaluate).complement
  | difference minuend subtrahend => do
    let s ← minuend.evaluate
    return s \ (← subtrahend.evaluate)
  | union parts => do return .unionOf (← evaluateAll parts)
  | countableUnion _ limit => .ok limit
  | countableInter _ limit => .ok limit
  | foreign _ => .error .operand
  | failed error => .error error

/-- The values of a list of expressions. -/
def evaluateAll : List GivenExpr → Except Error (List RealSet)
  | [] => .ok []
  | e :: rest => do
    let s ← e.evaluate
    return s :: (← evaluateAll rest)

end

mutual

/-- The points of the rays in an expression, from left to right; of a countable operation, those of
its first `depth` terms. -/
def cutpoints (depth : Nat) : GivenExpr → Except Error (List Value)
  | ray c => .ok [c]
  | complement inner => inner.cutpoints depth
  | difference minuend subtrahend => do
    let points ← minuend.cutpoints depth
    return points ++ (← subtrahend.cutpoints depth)
  | union parts => cutpointsOfAll depth parts
  | countableUnion term _ => do
    return (← (List.range depth).mapM fun k => (term k).cutpoints depth).flatten
  | countableInter term _ => do
    return (← (List.range depth).mapM fun k => (term k).cutpoints depth).flatten
  | foreign _ => .error .operand
  | failed error => .error error

/-- The points of the rays in a list of expressions. -/
def cutpointsOfAll (depth : Nat) : List GivenExpr → Except Error (List Value)
  | [] => .ok []
  | e :: rest => do
    let points ← e.cutpoints depth
    return points ++ (← cutpointsOfAll depth rest)

end

/-- The union of the values of the first `n` terms. -/
def partialUnion (term : Nat → GivenExpr) (n : Nat) : Except Error RealSet := do
  return .unionOf (← (List.range n).mapM fun k => (term k).evaluate)

/-- The intersection of the values of the first `n` terms; the whole line when there are none. -/
def partialInter (term : Nat → GivenExpr) (n : Nat) : Except Error RealSet :=
  (List.range n).foldlM (fun s k => do return s ∩ (← (term k).evaluate)) .line

/-- The partial result of a countable operation. -/
def partialOf (n : Nat) : GivenExpr → Except Error RealSet
  | countableUnion term _ => partialUnion term n
  | countableInter term _ => partialInter term n
  | failed error => .error error
  | _ => .error .operand

/-- Whether so many partial results from an index on, each compared with the one before, keep to a
step relation; the first one that does not ends the check. -/
def keepsTo (step : RealSet → RealSet → Bool) (result : Nat → Except Error RealSet)
    (previous : RealSet) (index : Nat) : Nat → Except Error Bool
  | 0 => .ok true
  | count + 1 => do
    let current ← result index
    if step previous current then keepsTo step result current (index + 1) count else return false

/-- Whether the partial unions of the first terms grow and stay inside the limit. -/
def growsInto (term : Nat → GivenExpr) (limit : RealSet) (terms : Nat) : Except Error Bool :=
  keepsTo (fun previous current => previous.isSubset current && current.isSubset limit)
    (partialUnion term) ∅ 1 terms

/-- Whether the partial intersections of the first terms shrink and include the limit. -/
def shrinksTo (term : Nat → GivenExpr) (limit : RealSet) (terms : Nat) : Except Error Bool :=
  keepsTo (fun previous current => current.isSubset previous && limit.isSubset current)
    (partialInter term) .line 1 terms

/-- Whether so many checks from an index on succeed; the first one that does not ends them. -/
def allHold (check : Nat → Except Error Bool) (index : Nat) : Nat → Except Error Bool
  | 0 => .ok true
  | count + 1 => do
    if ← check index then allHold check (index + 1) count else return false

mutual

/-- Checks the countable operations of an expression on their first terms, and the parts of the
expression in the same way. What is no expression is an error. -/
def verify (terms : Nat) : GivenExpr → Except Error Bool
  | ray _ => .ok true
  | complement inner => inner.verify terms
  | difference minuend subtrahend => do
    if ← minuend.verify terms then subtrahend.verify terms else return false
  | union parts => verifyAll terms parts
  | countableUnion term limit => do
    if ← growsInto term limit terms then allHold (fun k => (term k).verify terms) 0 terms
    else return false
  | countableInter term limit => do
    if ← shrinksTo term limit terms then allHold (fun k => (term k).verify terms) 0 terms
    else return false
  | foreign kind => .error (.noExpression kind)
  | failed error => .error error

/-- Checks the expressions of a list; the first one that fails ends the check. -/
def verifyAll (terms : Nat) : List GivenExpr → Except Error Bool
  | [] => .ok true
  | e :: rest => do
    if ← e.verify terms then verifyAll terms rest else return false

end

end GivenExpr
end LineMeasure
