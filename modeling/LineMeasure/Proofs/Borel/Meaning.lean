import LineMeasure.Given.Expr
import Mathlib.Data.Set.Basic
import Mathlib.Logic.Relation
import Mathlib.Tactic.Lemma

/-!
# What an expression over rays means

An expression means a set of rational numbers (`denote`): a countable operation means the union or
the intersection of what its terms mean, for all indices, and its declared limit plays no part. An
expression converges when each countable operation in it declares the limit that its terms have.
Then every expression that stands in it has its meaning as its value (`Converges.mem_evaluate`,
`Converges.of_isNodeOf`).
-/

namespace LineMeasure.RayExpr

mutual

/-- The rational numbers that an expression stands for. -/
def denote : RayExpr → Set Rat
  | ray c => {x | x < c}
  | complement inner => {x | x ∉ inner.denote}
  | difference minuend subtrahend => {x | x ∈ minuend.denote ∧ x ∉ subtrahend.denote}
  | union parts => denoteAny parts
  | countableUnion term _ => {x | ∃ n, x ∈ (term n).denote}
  | countableInter term _ => {x | ∀ n, x ∈ (term n).denote}

/-- The rational numbers that some expression of a list stands for. -/
def denoteAny : List RayExpr → Set Rat
  | [] => ∅
  | e :: rest => e.denote ∪ denoteAny rest

end

/-- The first expression stands right under the second one; under a countable operation stand the
terms of all indices. -/
inductive IsPartOf : RayExpr → RayExpr → Prop where
  | inner {e} : IsPartOf e (complement e)
  | minuend {d e} : IsPartOf d (difference d e)
  | subtrahend {d e} : IsPartOf e (difference d e)
  | part {e es} (h : e ∈ es) : IsPartOf e (union es)
  | unionTerm {term limit} (n : Nat) : IsPartOf (term n) (countableUnion term limit)
  | interTerm {term limit} (n : Nat) : IsPartOf (term n) (countableInter term limit)

/-- The first expression is the second one or stands in it, at any depth. -/
def IsNodeOf : RayExpr → RayExpr → Prop :=
  Relation.ReflTransGen IsPartOf

/-- Every countable operation in the expression declares the limit that its terms have. -/
inductive Converges : RayExpr → Prop where
  | ray (c : Rat) : Converges (ray c)
  | complement {e} (inner : Converges e) : Converges (complement e)
  | difference {d e} (minuend : Converges d) (subtrahend : Converges e) : Converges (difference d e)
  | union {es} (parts : ∀ e ∈ es, Converges e) : Converges (union es)
  | countableUnion {term limit} (terms : ∀ n, Converges (term n))
      (limit_iff : ∀ x, x ∈ limit ↔ ∃ n, x ∈ (term n).denote) :
        Converges (countableUnion term limit)
  | countableInter {term limit} (terms : ∀ n, Converges (term n))
      (limit_iff : ∀ x, x ∈ limit ↔ ∀ n, x ∈ (term n).denote) :
        Converges (countableInter term limit)

variable {e f : RayExpr} {es : List RayExpr} {term : Nat → RayExpr} {limit : RealSet} {x : Rat}

/-- A list of expressions stands for the union of what they stand for. -/
lemma mem_denoteAny : x ∈ denoteAny es ↔ ∃ e ∈ es, x ∈ e.denote := by
  induction es with
  | nil => simp [denoteAny]
  | cons e es ih => simp [denoteAny, ih]

/-- Expressions are evaluated one by one. -/
lemma evaluateAll_eq_map (es : List RayExpr) : evaluateAll es = es.map evaluate := by
  induction es with
  | nil => rfl
  | cons e es ih => rw [evaluateAll, ih, List.map_cons]

/-- The value of an expression that converges is what it stands for. -/
theorem Converges.mem_evaluate (h : Converges e) : x ∈ e.evaluate ↔ x ∈ e.denote := by
  -- a countable operation needs no induction hypothesis: its value is the limit that it declares
  induction h with
  | ray c =>
    rw [evaluate, denote, RealSet.mem_ofIntervals_singleton, Interval.mem_rayBelow]
    rfl
  | complement _ ih =>
    rw [evaluate, denote, RealSet.mem_complement, ih]
    rfl
  | difference _ _ ihd ihe =>
    rw [evaluate, denote, RealSet.mem_sdiff, ihd, ihe]
    rfl
  | @union es _ ih =>
    rw [evaluate, denote, RealSet.mem_unionOf, evaluateAll_eq_map, mem_denoteAny]
    simp only [List.mem_map, exists_exists_and_eq_and]
    exact exists_congr fun e => and_congr_right fun he => ih e he
  | countableUnion _ limit_iff =>
    rw [evaluate, denote]
    exact limit_iff x
  | countableInter _ limit_iff =>
    rw [evaluate, denote]
    exact limit_iff x

/-- What stands right under an expression that converges does so too. -/
lemma Converges.of_isPartOf (h : Converges e) (part : f.IsPartOf e) : Converges f := by
  cases part with
  | inner => cases h with | complement inner => exact inner
  | minuend => cases h with | difference minuend _ => exact minuend
  | subtrahend => cases h with | difference _ subtrahend => exact subtrahend
  | part hf => cases h with | union parts => exact parts f hf
  | unionTerm n => cases h with | countableUnion terms _ => exact terms n
  | interTerm n => cases h with | countableInter terms _ => exact terms n

/-- Whatever stands in an expression that converges does so too. -/
lemma Converges.of_isNodeOf (h : Converges e) (node : f.IsNodeOf e) : Converges f := by
  induction node using Relation.ReflTransGen.head_induction_on with
  | refl => exact h
  | head part _ ih => exact ih.of_isPartOf part

end LineMeasure.RayExpr

namespace LineMeasure.GivenExpr

mutual

/-- An expression over rational points is evaluated without an error when it is given. -/
theorem evaluate_ofExpr : (e : RayExpr) → (ofExpr e).evaluate = .ok e.evaluate
  | .ray _ => rfl
  | .complement inner => by
    rw [ofExpr, evaluate, evaluate_ofExpr inner]
    rfl
  | .difference minuend subtrahend => by
    rw [ofExpr, evaluate, evaluate_ofExpr minuend, evaluate_ofExpr subtrahend]
    rfl
  | .union parts => by
    rw [ofExpr, evaluate, evaluateAll_ofExprs parts]
    rfl
  | .countableUnion _ _ => rfl
  | .countableInter _ _ => rfl

/-- Expressions over rational points are evaluated without an error when they are given. -/
theorem evaluateAll_ofExprs :
    (es : List RayExpr) → evaluateAll (ofExprs es) = .ok (RayExpr.evaluateAll es)
  | [] => rfl
  | e :: rest => by
    rw [ofExprs, evaluateAll, evaluate_ofExpr e, evaluateAll_ofExprs rest]
    rfl

end

end LineMeasure.GivenExpr
