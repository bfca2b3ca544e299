import LineMeasure.Proofs.ENNRat.Semiring
import LineMeasure.Proofs.RealSet.Volume

/-!
# What sets have in common

The extent of the union of two sets falls short of the sum of their extents by the extent of what
they have in common (`extent_union_add_inter`). So the extent of the union of a list of sets is at
most the sum of theirs, and when that sum is finite, it is reached exactly when no two of the sets
have more than an extent of zero in common (`extent_unionOf_eq_iff`).
-/

namespace LineMeasure

namespace ENNRat

/-- When `a + b` is made up of the two numbers `c` and `d`, the second of which is at most `e`, then
`a` comes to `c + e` exactly when `b` is nothing and `d` is all of `e`. -/
lemma eq_add_iff {a b c d e : ENNRat} (h : a + b = c + d) (le : d ≤ e) (finite : c + e ≠ infinite) :
    a = c + e ↔ b = 0 ∧ d = e := by
  constructor
  · intro full
    rw [full] at h
    have nothing : b = 0 := by
      apply add_left_cancel finite
      apply le_antisymm
      · rw [h, add_zero]
        exact add_le_add le_rfl le
      · exact add_le_add le_rfl (nonneg b)
    rw [nothing, add_zero] at h
    exact ⟨nothing, (add_left_cancel (ne_infinite_of_add finite).1 h).symm⟩
  · rintro ⟨rfl, rfl⟩
    rwa [add_zero] at h

end ENNRat

namespace RealSet
open MeasureTheory

/-- The extents of a union and of what the two sets have in common add up to those of the sets. -/
theorem extent_union_add_inter (s t : RealSet) :
    (s ∪ t).extent + (s ∩ t).extent = s.extent + t.extent := by
  apply ENNRat.toENNReal_injective
  rw [ENNRat.toENNReal_add, ENNRat.toENNReal_add, ← volume_toSet, ← volume_toSet, ← volume_toSet,
    ← volume_toSet, toSet_union, toSet_inter]
  exact measure_union_add_inter _ t.measurableSet_toSet

@[simp]
lemma extent_unionOf_nil : (unionOf []).extent = 0 := by
  have none_in : unionOf [] = ∅ := by
    ext x
    simp [mem_unionOf]
  rw [none_in]
  rfl

lemma unionOf_cons (s : RealSet) (sets : List RealSet) :
    unionOf (s :: sets) = s ∪ unionOf sets := by
  ext x
  simp only [mem_unionOf, mem_union, List.mem_cons, exists_eq_or_imp]

/-- What a set has in common with a union is the union of what it has in common with each set. -/
lemma inter_unionOf (s : RealSet) (sets : List RealSet) :
    s ∩ unionOf sets = unionOf (sets.map (s ∩ ·)) := by
  ext x
  simp only [mem_unionOf, mem_inter, List.mem_map, exists_exists_and_eq_and]
  grind

/-- The extent of a union of sets is at most the sum of theirs. -/
theorem extent_unionOf_le (sets : List RealSet) :
    (unionOf sets).extent ≤ ENNRat.sum (sets.map extent) := by
  induction sets with
  | nil => exact extent_unionOf_nil.le
  | cons s sets ih =>
    rw [unionOf_cons, List.map_cons, ENNRat.sum_cons]
    calc (s ∪ unionOf sets).extent
        ≤ (s ∪ unionOf sets).extent + (s ∩ unionOf sets).extent :=
          le_add_of_nonneg_right (ENNRat.nonneg _)
      _ = s.extent + (unionOf sets).extent := extent_union_add_inter s (unionOf sets)
      _ ≤ s.extent + ENNRat.sum (sets.map extent) := add_le_add le_rfl ih

/-- A set has an extent of zero in common with a union when it has it with each of the sets. -/
lemma extent_inter_unionOf_eq_zero {s : RealSet} {sets : List RealSet} :
    (s ∩ unionOf sets).extent = 0 ↔ ∀ t ∈ sets, (s ∩ t).extent = 0 := by
  constructor
  · intro zero t ht
    have included : s ∩ t ⊆ s ∩ unionOf sets := by
      intro x hx
      obtain ⟨hs, hxt⟩ := mem_inter.1 hx
      exact mem_inter.2 ⟨hs, mem_unionOf.2 ⟨t, ht, hxt⟩⟩
    exact le_antisymm (zero ▸ extent_mono included) (ENNRat.nonneg _)
  · intro zero
    have sum : ENNRat.sum ((sets.map (s ∩ ·)).map extent) = 0 := by
      rw [List.map_map]
      induction sets with
      | nil => rfl
      | cons t sets ih =>
        rw [List.map_cons, ENNRat.sum_cons, ih
          fun u hu => zero u (List.mem_cons_of_mem _ hu), add_zero]
        exact zero t List.mem_cons_self
    rw [inter_unionOf]
    exact le_antisymm (sum ▸ extent_unionOf_le _) (ENNRat.nonneg _)

/-- The extents of sets of finite extent add up to that of the union exactly when no two of the sets
have more than an extent of zero in common. -/
theorem extent_unionOf_eq_iff {sets : List RealSet}
    (finite : ENNRat.sum (sets.map extent) ≠ .infinite) :
    (unionOf sets).extent = ENNRat.sum (sets.map extent) ↔
      sets.Pairwise fun s t => (s ∩ t).extent = 0 := by
  induction sets with
  | nil => exact iff_of_true extent_unionOf_nil List.Pairwise.nil
  | cons s sets ih =>
    rw [List.map_cons, ENNRat.sum_cons] at finite ⊢
    have rest := ih (ENNRat.ne_infinite_of_add finite).2
    rw [List.pairwise_cons, ← extent_inter_unionOf_eq_zero, ← rest, unionOf_cons]
    exact ENNRat.eq_add_iff (extent_union_add_inter s (unionOf sets))
      (extent_unionOf_le sets) finite

end RealSet
end LineMeasure
