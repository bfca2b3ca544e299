import LineMeasure.Given.Set
import LineMeasure.Proofs.ENNRat.Semiring

/-!
# Sums of the first numbers of a list

The sums of the first numbers of a list rise with their count, and they have the sum of the whole
list as their supremum (`supremum_sums`). How many first numbers can be asked for is bounded
(`count?_of_le`, `count?_of_lt`).
-/

namespace LineMeasure

namespace ENNRat
variable (terms : List ENNRat)

/-- The sum of the first numbers of a list, as that of a sequence. -/
lemma tsum_take (n : Nat) :
    tsum (ε := Error) (terms.map .ok) (some n) = .ok (sum (terms.take n)) := by
  rw [tsum, Option.elim_some, ← List.map_take]
  exact sumFrom_map_ok 0 (terms.take n)

/-- The sum of the first numbers grows with their count. -/
lemma sum_take_mono : Monotone fun n => sum (terms.take n) := by
  intro m n le
  obtain ⟨d, rfl⟩ := Nat.exists_eq_add_of_le le
  show sum (terms.take m) ≤ sum (terms.take (m + d))
  rw [List.take_add, sum_append]
  exact le_add_of_nonneg_right (nonneg _)

lemma sum_take_le (n : Nat) : sum (terms.take n) ≤ sum terms := by
  have parts := congrArg sum (List.take_append_drop n terms)
  rw [sum_append] at parts
  exact parts ▸ le_add_of_nonneg_right (nonneg _)

lemma larger_le_iff {a b c : ENNRat} : larger a b ≤ c ↔ a ≤ c ∧ b ≤ c := by
  rw [larger, ← max_def_lt, max_le_iff]

/-- The supremum of a list is its least upper bound. -/
lemma supremum_le_iff {values : List ENNRat} {b : ENNRat} :
    supremum values ≤ b ↔ ∀ a ∈ values, a ≤ b := by
  have bound (start : ENNRat) : values.foldl larger start ≤ b ↔
      start ≤ b ∧ ∀ a ∈ values, a ≤ b := by
    induction values generalizing start with
    | nil => simp
    | cons a values ih => rw [List.foldl_cons, ih, larger_le_iff, List.forall_mem_cons, and_assoc]
  rw [supremum, bound]
  exact and_iff_right (nonneg b)

/-- A greatest number of a list is its supremum. -/
lemma supremum_eq {values : List ENNRat} {a : ENNRat} (mem : a ∈ values)
    (greatest : ∀ b ∈ values, b ≤ a) :
    supremum values = a :=
  le_antisymm (supremum_le_iff.2 greatest) (supremum_le_iff.1 le_rfl a mem)

/-- The sums of the first numbers of a list, up to a count that takes in all of them, have the whole
sum as their supremum. -/
lemma supremum_sums {n : Nat} (all : terms.length ≤ n) :
    supremum ((List.range (n + 1)).map fun j => sum (terms.take j)) = sum terms := by
  refine supremum_eq (List.mem_map.2 ⟨n, List.self_mem_range_succ, ?_⟩) fun b hb => ?_
  · rw [List.take_of_length_le all]
  · obtain ⟨j, -, rfl⟩ := List.mem_map.1 hb
    exact sum_take_le terms j

end ENNRat

namespace Given

/-- A count that can be asked for is accepted. -/
lemma count?_of_le (count : Option Nat) (allowed : ∀ k ∈ count, k ≤ Sequence.maxCount) :
    count? (count.map Nat.cast) = .ok count := by
  cases count with
  | none => rfl
  | some k =>
    have accepted : Given.count k = .ok k := if_pos ⟨Int.natCast_nonneg k, allowed k rfl⟩
    rw [Option.map_some, count?, Option.elim_some, accepted]
    rfl

/-- A count that is too large is refused. -/
lemma count?_of_lt {k : Nat} (tooMany : Sequence.maxCount < k) :
    count? (some (k : Int)) = .error .count := by
  have refused : Given.count k = .error .count := if_neg fun h => not_le.2 tooMany h.2
  rw [count?, Option.elim_some, refused]
  rfl

end Given
end LineMeasure
