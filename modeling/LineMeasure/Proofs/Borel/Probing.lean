import LineMeasure.Proofs.Borel.Verification
import LineMeasure.Proofs.Limit.Affine

/-!
# What the check of generation decides

The check looks at an expression, at its parts, and at the first terms of its countable operations,
at any depth. It accepts the expression exactly when every countable operation that it comes to
declares a limit between which and its first terms the inclusion is right (`verify_eq_true_iff`). No
limit has to be the true one, and how partial results compare with those before them plays no part.
Expressions branch without bound, so the proofs go from the parts of an expression to the expression
itself (`wellFounded_isPartOf`).
-/

namespace LineMeasure.RayExpr

mutual

/-- Going from an expression to its parts comes to an end. -/
theorem acc_isPartOf : (e : RayExpr) → Acc IsPartOf e
  | ray _ => ⟨_, nofun⟩
  | complement inner => ⟨_, fun _ part => by cases part; exact acc_isPartOf inner⟩
  | difference minuend subtrahend => ⟨_, fun _ part => by
      cases part with
      | minuend => exact acc_isPartOf minuend
      | subtrahend => exact acc_isPartOf subtrahend⟩
  | union parts =>
    ⟨_, fun e part => by cases part with | part he => exact acc_isPartOf_of_mem parts e he⟩
  | countableUnion term _ =>
    ⟨_, fun _ part => by cases part with | unionTerm n => exact acc_isPartOf (term n)⟩
  | countableInter term _ =>
    ⟨_, fun _ part => by cases part with | interTerm n => exact acc_isPartOf (term n)⟩

/-- So it does from all expressions of a list. -/
theorem acc_isPartOf_of_mem : (es : List RayExpr) → ∀ e ∈ es, Acc IsPartOf e
  | [] => nofun
  | e :: rest => List.forall_mem_cons.2 ⟨acc_isPartOf e, acc_isPartOf_of_mem rest⟩

end

/-- An expression is built up from its parts in finitely many steps. -/
theorem wellFounded_isPartOf : WellFounded IsPartOf :=
  ⟨acc_isPartOf⟩

end LineMeasure.RayExpr

namespace LineMeasure.GivenExpr

variable {terms : Nat}

/-- The partial unions of an expression are those of the same expression when it is given. -/
lemma partialUnion_ofExpr (term : Nat → RayExpr) (n : Nat) :
    partialUnion (fun k => ofExpr (term k)) n = .ok (RayExpr.partialUnion term n) := by
  rw [partialUnion, mapM_eq_ok fun k _ => evaluate_ofExpr (term k)]
  rfl

/-- The partial intersections of an expression are those of the same expression when it is given. -/
lemma partialInter_ofExpr (term : Nat → RayExpr) (n : Nat) :
    partialInter (fun k => ofExpr (term k)) n = .ok (RayExpr.partialInter term n) := by
  induction n with
  | zero => rfl
  | succ n ih =>
    rw [partialInter] at ih ⊢
    rw [List.range_succ, List.foldlM_append, ih, RayExpr.partialInter_succ]
    simp [evaluate_ofExpr, bind, Except.bind, pure, Except.pure]

/-- Partial results that are found without an error are compared as such. -/
lemma keepsTo_ok {step : RealSet → RealSet → Bool} {result : Nat → Except Error RealSet}
    {found : Nat → RealSet}
    (h : ∀ n, result n = .ok (found n)) (previous : RealSet) (index count : Nat) :
    keepsTo step result previous index count =
      .ok (RayExpr.keepsTo step found previous index count) := by
  induction count generalizing previous index with
  | zero => rfl
  | succ count ih =>
    rw [keepsTo, RayExpr.keepsTo, h]
    simp only [bind, Except.bind]
    cases step previous (found index) with
    | true => exact ih _ _
    | false => rfl

/-- A check with a verdict, and another one that is only made when the first holds, have their
verdicts together. -/
lemma check_and {first rest : Except Error Bool} {p q : Bool} (hfirst : first = .ok p)
    (hrest : rest = .ok q) :
    (do if ← first then rest else return false) = (.ok (p && q) : Except Error Bool) := by
  rw [hfirst, hrest]
  cases p <;> rfl

/-- Checks from an index on that give a verdict all hold when each of the verdicts does. -/
lemma allHold_ok {check : Nat → Except Error Bool} {verdict : Nat → Bool}
    (h : ∀ n, check n = .ok (verdict n)) (index count : Nat) :
    allHold check index count = .ok ((List.range' index count).all verdict) := by
  induction count generalizing index with
  | zero => rfl
  | succ count ih =>
    rw [allHold, List.range'_succ, List.all_cons]
    exact check_and (h index) (ih (index + 1))

/-- The first checks hold when each of their verdicts does. -/
lemma allHold_zero {check : Nat → Except Error Bool} {verdict : Nat → Bool}
    (h : ∀ n, check n = .ok (verdict n))
    (count : Nat) : allHold check 0 count = .ok ((List.range count).all verdict) := by
  rw [allHold_ok h, List.range_eq_range']

/-- The check gives a verdict on every list of expressions whose members have one. -/
lemma verifyAll_ofExprs {es : List RayExpr}
    (h : ∀ e ∈ es, (ofExpr e).verify terms = .ok (e.verify terms)) :
    verifyAll terms (ofExprs es) = .ok (RayExpr.verifyAll terms es) := by
  induction es with
  | nil => rfl
  | cons e es ih =>
    rw [ofExprs, verifyAll, RayExpr.verifyAll]
    exact check_and (h e List.mem_cons_self) (ih fun d hd => h d (List.mem_cons_of_mem _ hd))

/-- An expression over rational points is checked without an error when it is given. -/
theorem verify_ofExpr (terms : Nat) (e : RayExpr) :
    (ofExpr e).verify terms = .ok (e.verify terms) := by
  induction e using RayExpr.wellFounded_isPartOf.induction with
  | h e ih =>
    cases e with
    | ray c => rfl
    | complement inner =>
      rw [ofExpr, verify, RayExpr.verify]
      exact ih inner .inner
    | difference minuend subtrahend =>
      rw [ofExpr, verify, RayExpr.verify]
      exact check_and (ih minuend .minuend) (ih subtrahend .subtrahend)
    | union parts =>
      rw [ofExpr, verify, RayExpr.verify]
      exact verifyAll_ofExprs fun e he => ih e (.part he)
    | countableUnion term limit =>
      have grows :
          growsInto (fun k => ofExpr (term k)) limit terms =
            .ok (RayExpr.growsInto term limit terms) :=
        keepsTo_ok (partialUnion_ofExpr term) _ _ _
      rw [ofExpr, verify, RayExpr.verify]
      exact check_and grows (allHold_zero (fun k => ih (term k) (.unionTerm k)) terms)
    | countableInter term limit =>
      have shrinks :
          shrinksTo (fun k => ofExpr (term k)) limit terms =
            .ok (RayExpr.shrinksTo term limit terms) :=
        keepsTo_ok (partialInter_ofExpr term) _ _ _
      rw [ofExpr, verify, RayExpr.verify]
      exact check_and shrinks (allHold_zero (fun k => ih (term k) (.interTerm k)) terms)

end LineMeasure.GivenExpr

namespace LineMeasure.RayExpr

/-- The first expression stands right under the second one, and under a countable operation it is
one of the first `terms` terms. -/
inductive IsProbedPartOf (terms : Nat) : RayExpr → RayExpr → Prop where
  | inner {e} : IsProbedPartOf terms e (complement e)
  | minuend {d e} : IsProbedPartOf terms d (difference d e)
  | subtrahend {d e} : IsProbedPartOf terms e (difference d e)
  | part {e es} (h : e ∈ es) : IsProbedPartOf terms e (union es)
  | unionTerm {term limit k} (h : k < terms) :
    IsProbedPartOf terms (term k) (countableUnion term limit)
  | interTerm {term limit k} (h : k < terms) :
    IsProbedPartOf terms (term k) (countableInter term limit)

/-- The first expression is the second one, or stands in it among the first `terms` terms. -/
def IsProbedNodeOf (terms : Nat) : RayExpr → RayExpr → Prop :=
  Relation.ReflTransGen (IsProbedPartOf terms)

/-- The first terms of a countable operation are included in the limit of a union, and include that
of an intersection. -/
def RespectsLimit (terms : Nat) : RayExpr → Prop
  | countableUnion term limit => ∀ k < terms, (term k).evaluate ⊆ limit
  | countableInter term limit => ∀ k < terms, limit ⊆ (term k).evaluate
  | _ => True

variable {terms : Nat} {d e : RayExpr}

/-- What is looked at under an expression is a part of it. -/
lemma IsProbedPartOf.isPartOf (h : d.IsProbedPartOf terms e) : d.IsPartOf e := by
  cases h with
  | inner => exact .inner
  | minuend => exact .minuend
  | subtrahend => exact .subtrahend
  | part h => exact .part h
  | unionTerm => exact .unionTerm _
  | interTerm => exact .interTerm _

/-- One step: an expression is accepted when it respects its limit and all that is looked at under
it is accepted. -/
lemma verify_iff_parts :
    e.verify terms = true ↔
      e.RespectsLimit terms ∧ ∀ d : RayExpr, d.IsProbedPartOf terms e → d.verify terms = true := by
  cases e with
  | ray c => exact iff_of_true rfl ⟨trivial, nofun⟩
  | complement inner =>
    rw [verify]
    constructor
    · intro passed
      refine ⟨trivial, fun d part => ?_⟩
      cases part with
      | inner => exact passed
    · exact fun passed => passed.2 inner .inner
  | difference minuend subtrahend =>
    rw [verify, Bool.and_eq_true]
    constructor
    · rintro ⟨first, second⟩
      refine ⟨trivial, fun d part => ?_⟩
      cases part with
      | minuend => exact first
      | subtrahend => exact second
    · exact fun passed => ⟨passed.2 minuend .minuend, passed.2 subtrahend .subtrahend⟩
  | union parts =>
    rw [verify, verifyAll_iff]
    constructor
    · intro passed
      refine ⟨trivial, fun d part => ?_⟩
      cases part with
      | part hd => exact passed d hd
    · exact fun passed e he => passed.2 e (.part he)
  | countableUnion term limit =>
    rw [verify, Bool.and_eq_true, growsInto_iff, List.all_eq_true]
    refine and_congr_right fun _ => ⟨fun passed d part => ?_, fun passed k hk => ?_⟩
    · cases part with
      | unionTerm hk => exact passed _ (List.mem_range.2 hk)
    · exact passed (term k) (.unionTerm (List.mem_range.1 hk))
  | countableInter term limit =>
    rw [verify, Bool.and_eq_true, shrinksTo_iff, List.all_eq_true]
    refine and_congr_right fun _ => ⟨fun passed d part => ?_, fun passed k hk => ?_⟩
    · cases part with
      | interTerm hk => exact passed _ (List.mem_range.2 hk)
    · exact passed (term k) (.interTerm (List.mem_range.1 hk))

/-- All that the check comes to in an expression that it accepts is accepted too. -/
lemma verify_of_isProbedNodeOf (passed : e.verify terms = true) (node : d.IsProbedNodeOf terms e) :
    d.verify terms = true := by
  induction node using Relation.ReflTransGen.head_induction_on with
  | refl => exact passed
  | head part _ ih => exact (verify_iff_parts.1 ih).2 _ part

/-- An expression is accepted exactly when all countable operations that the check comes to respect
their limits. -/
theorem verify_eq_true_iff :
    e.verify terms = true ↔ ∀ d : RayExpr, d.IsProbedNodeOf terms e → d.RespectsLimit terms := by
  constructor
  · intro passed d node
    exact (verify_iff_parts.1 (verify_of_isProbedNodeOf passed node)).1
  -- what the check comes to under a part, it comes to under the expression
  · intro respects
    induction e using wellFounded_isPartOf.induction with
    | h e ih =>
      refine verify_iff_parts.2 ⟨respects e .refl, fun d part => ?_⟩
      exact ih d part.isPartOf fun f node => respects f (node.tail part)

/-- Expressions are accepted exactly when every probed countable operation respects its limit. -/
theorem verify_exact (terms : Nat) (e : RayExpr) :
    (GivenExpr.ofExpr e).verify terms = .ok (e.verify terms) ∧
      (e.verify terms = true ↔ ∀ d : RayExpr, d.IsProbedNodeOf terms e → d.RespectsLimit terms) ∧
      ∀ term limit,
        growsInto term limit terms =
            keepsTo (fun _ current => current.isSubset limit) (partialUnion term) ∅ 1 terms ∧
          shrinksTo term limit terms =
            keepsTo (fun _ current => limit.isSubset current)
              (partialInter term) .line 1 terms := by
  refine ⟨GivenExpr.verify_ofExpr terms e, verify_eq_true_iff, fun term limit => ⟨?_, ?_⟩⟩
  · exact growsInto_eq term limit terms
  · exact shrinksTo_eq term limit terms

end LineMeasure.RayExpr
