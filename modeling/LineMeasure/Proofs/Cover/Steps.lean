import LineMeasure.Cover.Canonical
import LineMeasure.Proofs.Cover.Canonical
import Mathlib.Algebra.Order.Floor.Semiring

/-!
# Steps of length one

The steps of an unbounded piece have length one and fill the piece (`exists_mem_unitStep_iff`). When
the steps of several pieces are taken in turn, none is left out: the index in the sequence gives the
piece by its remainder and the step by its quotient (`exists_mem_interleavedStep_iff`).
-/

namespace LineMeasure.Cover
open LineMeasure.Interval

variable {p x : Rat} {pieces : List Interval} {eps : Rat} {index : Nat} {c : Interval}

/-- The steps up from a number reach what is not below it. -/
lemma exists_step_up_iff : (∃ n : Nat, p + n ≤ x ∧ x < p + n + 1) ↔ p ≤ x := by
  constructor
  · rintro ⟨n, start, -⟩
    have : (0 : Rat) ≤ n := n.cast_nonneg
    linarith
  · intro le
    have start := Nat.floor_le (sub_nonneg.2 le)
    have stop := Nat.lt_floor_add_one (x - p)
    refine ⟨⌊x - p⌋₊, ?_, ?_⟩ <;> linarith

/-- The steps down from a number reach what is below it. -/
lemma exists_step_down_iff : (∃ n : Nat, p - n - 1 ≤ x ∧ x < p - n) ↔ x < p := by
  constructor
  · rintro ⟨n, -, stop⟩
    have : (0 : Rat) ≤ n := n.cast_nonneg
    linarith
  · intro lt
    have room : 0 < p - x := sub_pos.2 lt
    obtain ⟨n, hn⟩ := Nat.exists_eq_succ_of_ne_zero (Nat.ceil_pos.2 room).ne'
    have start := Nat.le_ceil (p - x)
    have stop := Nat.ceil_lt_add_one room.le
    rw [hn, Nat.cast_succ] at start stop
    refine ⟨n, ?_, ?_⟩ <;> linarith

/-- Counting `0, -1, 1, -2, 2` and so on comes to every integer. -/
lemma exists_zigzag (k : Int) :
    ∃ n : Nat, (if n % 2 = 0 then ((n / 2 : Nat) : Int) else -((n + 1) / 2 : Nat)) = k := by
  rcases lt_or_ge k 0 with negative | nonneg
  · refine ⟨2 * (-k).toNat - 1, ?_⟩
    rw [if_neg (by omega)]
    omega
  · refine ⟨2 * k.toNat, ?_⟩
    rw [if_pos (by omega)]
    omega

/-- The steps around zero reach every number. -/
lemma exists_mem_unitStep_line (x : Rat) : ∃ n, x ∈ (unitStep ⟨none, none⟩ n).toInterval := by
  obtain ⟨n, hn⟩ := exists_zigzag ⌊x⌋
  refine ⟨n, ?_⟩
  rw [unitStep, hn, HalfOpen.mem_toInterval]
  exact ⟨Int.floor_le x, Int.lt_floor_add_one x⟩

/-- The steps of an unbounded piece fill it. -/
lemma exists_mem_unitStep_iff (unbounded : c.isBounded = false) :
    (∃ n, x ∈ (unitStep (padded eps index c) n).toInterval) ↔ x ∈ padded eps index c := by
  rw [padded_eq]
  match c with
  | ⟨some l, none⟩ =>
    simp only [Option.map_some, Option.map_none, unitStep, HalfOpen.mem_toInterval,
      exists_step_up_iff]
    simp [mem_iff, Bound.IsBelow, le_iff_lt_or_eq]
  | ⟨none, some u⟩ =>
    simp only [Option.map_some, Option.map_none, unitStep, HalfOpen.mem_toInterval,
      exists_step_down_iff]
    simp [mem_iff, Bound.IsAbove]
  | ⟨none, none⟩ =>
    refine iff_of_true (exists_mem_unitStep_line x) ?_
    exact ⟨inLower_none x, inUpper_none x⟩

/-- A step has length one. -/
lemma length_unitStep (i : Interval) (n : Nat) :
    (unitStep i n).right - (unitStep i n).left = 1 := by
  match i with
  | ⟨some l, _⟩ =>
    show l.point + n + 1 - (l.point + n) = 1
    ring
  | ⟨none, some u⟩ =>
    show u.point - n - (u.point - n - 1) = 1
    ring
  | ⟨none, none⟩ => exact add_sub_cancel_left _ _

/-- The step that a piece has in the sequence. -/
lemma interleavedStep_mul_add {j : Nat} (h : j < pieces.length) (n : Nat) :
    interleavedStep pieces (pieces.length * n + j) = unitStep pieces[j] n := by
  have piece : (pieces.length * n + j) % pieces.length = j := by
    rw [Nat.mul_add_mod, Nat.mod_eq_of_lt h]
  have step : (pieces.length * n + j) / pieces.length = n := by
    rw [Nat.mul_add_div (Nat.zero_lt_of_lt h), Nat.div_eq_of_lt h, Nat.add_zero]
  rw [interleavedStep, piece, step, List.getElem?_eq_getElem h]

/-- Every step in the sequence is one of a piece. -/
lemma exists_interleavedStep_eq (nonempty : pieces ≠ []) (n : Nat) :
    ∃ i ∈ pieces, ∃ k, interleavedStep pieces n = unitStep i k := by
  have h : n % pieces.length < pieces.length := Nat.mod_lt n (List.length_pos_iff.2 nonempty)
  refine ⟨_, List.getElem_mem h, n / pieces.length, ?_⟩
  rw [interleavedStep, List.getElem?_eq_getElem h]

/-- The sequence reaches what the steps of some piece reach. -/
lemma exists_mem_interleavedStep_iff (nonempty : pieces ≠ []) :
    (∃ n, x ∈ (interleavedStep pieces n).toInterval) ↔
      ∃ i ∈ pieces, ∃ n, x ∈ (unitStep i n).toInterval := by
  constructor
  · rintro ⟨n, hx⟩
    obtain ⟨i, hi, k, step⟩ := exists_interleavedStep_eq nonempty n
    exact ⟨i, hi, k, step ▸ hx⟩
  · rintro ⟨i, hi, n, hx⟩
    obtain ⟨j, hj, rfl⟩ := List.mem_iff_getElem.1 hi
    exact ⟨pieces.length * n + j, (interleavedStep_mul_add hj n).symm ▸ hx⟩

/-- A step in the sequence has length one. -/
lemma length_interleavedStep (nonempty : pieces ≠ []) (n : Nat) :
    (interleavedStep pieces n).right - (interleavedStep pieces n).left = 1 := by
  obtain ⟨i, -, k, step⟩ := exists_interleavedStep_eq nonempty n
  rw [step, length_unitStep]

end LineMeasure.Cover
