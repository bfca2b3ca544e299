import LineMeasure.Given.Measure
import LineMeasure.Proofs.Record.RoundTrip
import Mathlib.Data.Set.Basic

/-!
# Runs of set operations

A run applies operations one after the other to a set of the library. Each operation also has a
meaning on sets of numbers, which knows nothing of pieces and their ends. One step keeps a set and
the set of its members together (`Operation.apply_represents`), and so does a whole run
(`run_represents`); in particular no step of a run fails.
-/

namespace LineMeasure.RealSet

/-- An operation on a set, with its other arguments. -/
inductive Operation where
  | union (others : List RealSet)
  | inter (other : RealSet)
  | sdiff (other : RealSet)
  | sdiffFrom (other : RealSet)
  | complement
  | shift (t : Value) (q : Rat) (reads : t.toRat = .ok q)
  | reload

/-- `S` holds the members of `s`. -/
def Represents (s : RealSet) (S : Set Rat) : Prop :=
  ∀ x, x ∈ s ↔ x ∈ S

namespace Operation

/-- The result of an operation. A set is loaded again from the record that it is dumped to. -/
def apply (s : RealSet) : Operation → Except Error RealSet
  | union others => .ok (.unionOf (s :: others))
  | inter other => .ok (s ∩ other)
  | sdiff other => .ok (s \ other)
  | sdiffFrom other => .ok (other \ s)
  | complement => .ok s.complement
  | shift t _ _ => Given.setShift s t
  | reload => (ofJson .document s.toJson).mapError .record

/-- What an operation does to a set of numbers. -/
def meaning (S : Set Rat) : Operation → Set Rat
  | union others => {x | x ∈ S ∨ ∃ t ∈ others, x ∈ t}
  | inter other => {x | x ∈ S ∧ x ∈ other}
  | sdiff other => {x | x ∈ S ∧ ¬ x ∈ other}
  | sdiffFrom other => {x | x ∈ other ∧ ¬ x ∈ S}
  | complement => {x | ¬ x ∈ S}
  | shift _ q _ => {x | x - q ∈ S}
  | reload => S

/-- One step: an operation succeeds, and what it does to the set is what it means on the members. -/
lemma apply_represents {s : RealSet} {S : Set Rat} (h : s.Represents S) (op : Operation) :
    ∃ t, op.apply s = .ok t ∧ t.Represents (op.meaning S) := by
  cases op with
  | union others =>
    refine ⟨_, rfl, fun x => ?_⟩
    simp only [mem_unionOf, List.mem_cons, exists_eq_or_imp, h x]
    rfl
  | inter other =>
    refine ⟨_, rfl, fun x => ?_⟩
    rw [mem_inter, h]
    rfl
  | sdiff other =>
    refine ⟨_, rfl, fun x => ?_⟩
    rw [mem_sdiff, h]
    rfl
  | sdiffFrom other =>
    refine ⟨_, rfl, fun x => ?_⟩
    rw [mem_sdiff, h]
    rfl
  | complement =>
    refine ⟨_, rfl, fun x => ?_⟩
    rw [mem_complement, h]
    rfl
  | shift t q reads =>
    -- the empty set is returned as it is, and shifting it would not change it
    by_cases empty : s.isEmpty = true
    · refine ⟨s, if_pos empty, fun x => ?_⟩
      have nothing := isEmpty_iff.1 empty
      exact iff_of_false (nothing x) fun hx => nothing (x - q) ((h _).2 hx)
    · refine ⟨s.shift q, ?_, fun x => ?_⟩
      · simp [apply, Given.setShift, empty, Value.real, reads, Except.mapError, bind, Except.bind,
          pure, Except.pure]
      · rw [mem_shift, h]
        rfl
  | reload =>
    refine ⟨s, ?_, h⟩
    rw [apply, ofJson_toJson]
    rfl

end Operation

/-- The result of operations that are applied one after the other. -/
def run (s : RealSet) (ops : List Operation) : Except Error RealSet :=
  ops.foldlM Operation.apply s

/-- A whole run keeps a set and the set of its members together. -/
lemma run_represents {s : RealSet} {S : Set Rat} (h : s.Represents S) (ops : List Operation) :
    ∃ t, run s ops = .ok t ∧ t.Represents (ops.foldl Operation.meaning S) := by
  induction ops generalizing s S with
  | nil => exact ⟨s, rfl, h⟩
  | cons op ops ih =>
    obtain ⟨t, step, represents⟩ := op.apply_represents h
    obtain ⟨u, rest, result⟩ := ih represents
    refine ⟨u, ?_, result⟩
    rw [run, List.foldlM_cons, step]
    exact rest

/-- A run of operations does to the members of a set what the operations mean. -/
theorem run_refines (s : RealSet) (ops : List Operation) :
    (∃ t, run s ops = .ok t ∧ ∀ x, ∃ found, Given.setContains t (.rational x) = .ok found ∧
      (found = true ↔ x ∈ ops.foldl Operation.meaning {x | x ∈ s})) ∧
      ∀ a b : RealSet, a.isSubset b = true ↔ ∀ x, x ∈ a → x ∈ b := by
  refine ⟨?_, fun a b => isSubset_iff⟩
  obtain ⟨t, result, represents⟩ := run_represents (S := {x | x ∈ s}) (fun _ => Iff.rfl) ops
  refine ⟨t, result, fun x => ⟨decide (x ∈ t), rfl, ?_⟩⟩
  rw [decide_eq_true_eq, represents]

end LineMeasure.RealSet
