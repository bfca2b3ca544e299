import LineMeasure.Proofs.Cover.Terms

/-!
# The terms of a cover by their indices

Reading the first terms of a cover is the same as making its terms at one index after the other, as
far as there are any (`take_eq_mapM`). So two covers with as many first terms, and the same ones,
are read alike (`take_congr`).
-/

namespace LineMeasure.Cover

variable {c d : Cover} {m n : Nat} {examined : List HalfOpen}

/-- How many of the first `n` terms there are. -/
def available (c : Cover) (n : Nat) : Nat :=
  match c.tail with
  | none => min n c.terms.length
  | some _ => n

lemma available_of_finite (finite : c.tail = none) (n : Nat) :
    c.available n = min n c.terms.length := by
  rw [available, finite]

lemma available_of_endless (endless : c.tail ≠ none) (n : Nat) : c.available n = n := by
  obtain ⟨tail, h⟩ := Option.ne_none_iff_exists'.1 endless
  rw [available, h]

lemma available_eq_min (c : Cover) (le : m ≤ n) : c.available m = min m (c.available n) := by
  by_cases finite : c.tail = none
  · rw [available_of_finite finite, available_of_finite finite]
    omega
  · rw [available_of_endless finite, available_of_endless finite, min_eq_left le]

lemma available_le (c : Cover) (n : Nat) : c.available n ≤ n := by
  by_cases finite : c.tail = none
  · exact (available_of_finite finite n).trans_le (min_le_left n c.terms.length)
  · exact (available_of_endless finite n).le

/-- The terms of the list by their indices. -/
lemma map_term_range (c : Cover) (n : Nat) :
    (List.range (min n c.terms.length)).map c.term = (c.terms.take n).map .ok := by
  apply List.ext_getElem
  · simp
  · intro i inside _
    have listed : i < c.terms.length := by
      rw [List.length_map, List.length_range] at inside
      omega
    simp [term_of_lt listed]

/-- The terms behind the list by their indices. -/
lemma map_term_range_add {tail : Tail} (endless : c.tail = some tail) (n : Nat) :
    (List.range (n - c.terms.length)).map (fun i => c.term (min n c.terms.length + i)) =
      (List.range (n - c.terms.length)).map (tailTerm c.terms.length tail) := by
  rcases le_total n c.terms.length with inside | beyond
  · rw [Nat.sub_eq_zero_of_le inside, List.range_zero]
    rfl
  · apply List.map_congr_left
    intro i _
    rw [min_eq_right beyond, term_length_add endless]

/-- The terms of an endless cover are those of its list, and then those of its tail. -/
lemma map_term_range_of_endless {tail : Tail} (endless : c.tail = some tail) (n : Nat) :
    (List.range n).map c.term =
      (c.terms.take n).map .ok ++
      (List.range (n - c.terms.length)).map (tailTerm c.terms.length tail) := by
  have split : n = min n c.terms.length + (n - c.terms.length) := by omega
  conv_lhs => rw [split, List.range_add, List.map_append, List.map_map]
  rw [map_term_range]
  exact congrArg _ (map_term_range_add endless n)

/-- What is read of a cover are its terms by their indices, one after the other. -/
lemma take_eq_mapM (c : Cover) (n : Nat) :
    c.take n = ((List.range (c.available n)).map c.term).mapM id := by
  cases h : c.tail with
  | none => rw [take_of_finite h, available_of_finite h, map_term_range, mapM_map_ok]
  | some tail =>
    have fromTail : ((List.range (n - c.terms.length)).map (tailTerm c.terms.length tail)).mapM id =
        Sequence.readFirst (tailTerm c.terms.length tail) (n - c.terms.length) := by
      rw [Sequence.readFirst_eq_mapM, List.mapM_map]
      rfl
    rw [available_of_endless (h ▸ Option.some_ne_none tail), map_term_range_of_endless h,
      List.mapM_append, mapM_map_ok, fromTail, take, h]
    rfl

lemma length_of_take (taken : c.take n = .ok examined) : examined.length = c.available n := by
  rcases take_cases taken with ⟨finite, rfl⟩ | ⟨endless, full⟩
  · rw [available_of_finite finite, List.length_take]
  · rw [available_of_endless endless, full]

/-- Covers with the same first terms are read alike. -/
lemma take_congr (count : c.available m = d.available m) (same : ∀ i < m, c.term i = d.term i)
    (le : n ≤ m) :
    c.take n = d.take n := by
  have short : c.available n ≤ m := (available_le c n).trans le
  have terms : (List.range (c.available n)).map c.term = (List.range (c.available n)).map d.term :=
    List.map_congr_left fun i hi => same i ((List.mem_range.1 hi).trans_le short)
  rw [take_eq_mapM, take_eq_mapM, terms, available_eq_min c le, available_eq_min d le, count]

end LineMeasure.Cover
