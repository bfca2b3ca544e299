import LineMeasure.Cover.Basic
import LineMeasure.Proofs.ENNRat.Embedding
import LineMeasure.Proofs.Limit.Affine

/-!
# The first terms of a cover

A cover with half-open terms can be read as far as one likes (`IsHalfOpen.exists_take`). The terms
that are read are a part of the list of a finite cover, and of an endless one they are as many as
were asked for (`take_cases`); so a cover that gives fewer terms than that is finite and has given
all of them (`finite_of_length_lt`).
-/

namespace LineMeasure

namespace Sequence

variable {ε α : Type} {entry : Nat → Except ε α} {before entries : List α} {index count : Nat}

/-- Reading goes on until all entries that are asked for have been read. -/
lemma length_readFrom (read : readFrom entry before index count = .ok entries) :
    entries.length = before.length + count := by
  induction count generalizing before index with
  | zero =>
    obtain rfl : before.reverse = entries := Except.ok.inj read
    exact List.length_reverse
  | succ count ih =>
    rw [readFrom] at read
    split at read
    next a _ =>
      rw [ih read, List.length_cons]
      omega
    next => cases read

lemma length_readFirst (read : readFirst entry count = .ok entries) : entries.length = count := by
  rw [length_readFrom read, List.length_nil, Nat.zero_add]

end Sequence

namespace Cover

/-- All terms of a cover are half-open: those in its list are, and its tail makes no other. -/
def IsHalfOpen (c : Cover) : Prop :=
  ∀ tail ∈ c.tail, ∀ n, ∃ t : HalfOpen, tail.term n = .ok t.toInterval

/-- A half-open interval is accepted as a term. -/
lemma checkTerm_toInterval (index : Nat) (t : HalfOpen) : checkTerm index t.toInterval = .ok t := by
  rw [checkTerm, Interval.halfOpen?_eq_some_iff.2 rfl]

/-- The first terms of a tail are those that it makes, when they are half-open. -/
lemma readFirst_tailTerm {tail : Tail} {f : Nat → HalfOpen} {count : Nat} (offset : Nat)
    (made : ∀ n < count, tail.term n = .ok (f n).toInterval) :
    Sequence.readFirst (tailTerm offset tail) count = .ok ((List.range count).map f) := by
  rw [Sequence.readFirst_eq_mapM]
  apply mapM_eq_ok
  intro n hn
  rw [tailTerm, made n (List.mem_range.1 hn)]
  exact checkTerm_toInterval (offset + n) (f n)

variable {c : Cover} {n : Nat} {examined : List HalfOpen}

/-- A finite cover is half-open. -/
lemma IsHalfOpen.of_finite (finite : c.tail = none) : c.IsHalfOpen := by
  intro tail endless
  rw [finite] at endless
  cases endless

/-- A finite cover gives the first terms of its list. -/
lemma take_of_finite (finite : c.tail = none) (n : Nat) : c.take n = .ok (c.terms.take n) := by
  rw [take, finite]

/-- An endless cover gives the terms of its list first, and then those that its tail makes. -/
lemma take_of_endless {tail : Tail} {f : Nat → HalfOpen} (endless : c.tail = some tail)
    (made : ∀ n, tail.term n = .ok (f n).toInterval) (n : Nat) :
    c.take n = .ok (c.terms.take n ++ (List.range (n - c.terms.length)).map f) := by
  rw [take, endless]
  simp only [readFirst_tailTerm c.terms.length fun n _ => made n]
  rfl

/-- A cover with half-open terms can be read as far as one likes. -/
lemma IsHalfOpen.exists_take (halfOpen : c.IsHalfOpen) (n : Nat) :
    ∃ examined, c.take n = .ok examined := by
  cases h : c.tail with
  | none => exact ⟨_, take_of_finite h n⟩
  | some tail =>
    choose f made using halfOpen tail h
    exact ⟨_, take_of_endless h made n⟩

/-- As many terms as the list has are those of the list. -/
lemma IsHalfOpen.take_length_terms (halfOpen : c.IsHalfOpen) :
    c.take c.terms.length = .ok c.terms := by
  cases h : c.tail with
  | none => rw [take_of_finite h, List.take_length]
  | some tail =>
    choose f made using halfOpen tail h
    rw [take_of_endless h made, List.take_length, Nat.sub_self, List.range_zero, List.map_nil,
      List.append_nil]

/-- A term of the list is found at its place. -/
lemma exists_term_of_mem {t : HalfOpen} (h : t ∈ c.terms) : ∃ n, c.term n = .ok t := by
  obtain ⟨n, hn⟩ := List.mem_iff_getElem?.1 h
  refine ⟨n, ?_⟩
  rw [term, hn]

/-- The terms behind the list are those of the tail. -/
lemma term_length_add {tail : Tail} (endless : c.tail = some tail) (n : Nat) :
    c.term (c.terms.length + n) = tailTerm c.terms.length tail n := by
  rw [term, List.getElem?_eq_none (Nat.le_add_right _ n), endless]
  simp only [Nat.add_sub_cancel_left]

/-- A term that the tail makes is found behind the list. -/
lemma term_of_tail {tail : Tail} {t : HalfOpen} (endless : c.tail = some tail)
    (made : tail.term n = .ok t.toInterval) :
    c.term (c.terms.length + n) = .ok t := by
  rw [term_length_add endless, tailTerm, made]
  exact checkTerm_toInterval (c.terms.length + n) t

/-- The terms of the list are found at their indices. -/
lemma term_of_lt (inside : n < c.terms.length) : c.term n = .ok c.terms[n] := by
  rw [term, List.getElem?_eq_getElem inside]

/-- Behind the end of a finite cover all terms are empty. -/
lemma term_of_finite (finite : c.tail = none) (behind : c.terms.length ≤ n) :
    c.term n = .ok .empty := by
  rw [term, List.getElem?_eq_none behind, finite]

/-- There is a term at an index, unless it is one of the tail that is not half-open. -/
lemma exists_term_of_tail
    (made : ∀ tail ∈ c.tail, ∀ i, c.terms.length + i = n →
      ∃ t : HalfOpen, tail.term i = .ok t.toInterval) :
    ∃ t, c.term n = .ok t := by
  rcases lt_or_ge n c.terms.length with inside | behind
  · exact ⟨_, term_of_lt inside⟩
  cases h : c.tail with
  | none => exact ⟨_, term_of_finite h behind⟩
  | some tail =>
    obtain ⟨i, rfl⟩ := Nat.exists_eq_add_of_le behind
    obtain ⟨t, form⟩ := made tail h i rfl
    exact ⟨t, term_of_tail h form⟩

/-- A cover with half-open terms has a term at every index. -/
lemma IsHalfOpen.exists_term (halfOpen : c.IsHalfOpen) (n : Nat) : ∃ t, c.term n = .ok t :=
  exists_term_of_tail fun tail endless i _ => halfOpen tail endless i

/-- The sum of a cover by the length functional is the sum of the distances between its ends. -/
lemma sum_eq_total (c : Cover) : c.sum = c.total :=
  rfl

/-- The lengths of terms add up to a number. -/
lemma sum_lengths_eq_finite (terms : List HalfOpen) :
    ∃ nonneg, ENNRat.sum (terms.map HalfOpen.length) =
      .finite (terms.map HalfOpen.width).sum nonneg := by
  induction terms with
  | nil => exact ⟨le_rfl, rfl⟩
  | cons t terms ih =>
    obtain ⟨nonneg, rest⟩ := ih
    have width : 0 ≤ t.width := Rational.positivePart_nonneg _
    simp only [List.map_cons, List.sum_cons, ENNRat.sum_cons, rest]
    exact ⟨add_nonneg width nonneg, rfl⟩

/-- The partial sums of the terms that are read. -/
lemma partialSums_of_take (taken : c.take n = .ok examined) :
    c.partialSums (some n) = .ok (runningSums 0 (examined.map HalfOpen.length)) := by
  rw [partialSums, Option.getD_some, lengths, taken]
  rfl

/-- The running sums of some lengths are the sums of their first ones. -/
lemma runningSums_eq_map (start : ENNRat) (lens : List ENNRat) :
    runningSums start lens = (List.range lens.length).map
      fun j => start + ENNRat.sum (lens.take (j + 1)) := by
  induction lens generalizing start with
  | nil => rfl
  | cons a lens ih =>
    rw [runningSums, ih, List.length_cons, List.range_succ_eq_map, List.map_cons, List.map_map]
    simp [Function.comp_def, add_assoc]

/-- The last of the running sums of some lengths is their whole sum. -/
lemma add_sum_mem_runningSums {lens : List ENNRat} (nonempty : lens ≠ []) (start : ENNRat) :
    start + ENNRat.sum lens ∈ runningSums start lens := by
  have last : lens.length - 1 + 1 = lens.length :=
    Nat.sub_add_cancel (List.length_pos_iff.2 nonempty)
  rw [runningSums_eq_map]
  refine List.mem_map.2 ⟨lens.length - 1, List.mem_range.2 (Nat.lt_of_succ_le last.le), ?_⟩
  rw [last, List.take_length]

/-- A finite cover gives a part of its list, and an endless one as many terms as are asked for. -/
lemma take_cases (taken : c.take n = .ok examined) :
    c.tail = none ∧ examined = c.terms.take n ∨ c.tail ≠ none ∧ examined.length = n := by
  cases h : c.tail with
  | none =>
    rw [take_of_finite h] at taken
    exact .inl ⟨rfl, (Except.ok.inj taken).symm⟩
  | some tail =>
    rw [take, h] at taken
    cases read : Sequence.readFirst (tailTerm c.terms.length tail) (n - c.terms.length) with
    | error e =>
      simp only [read] at taken
      cases taken
    | ok fromTail =>
      simp only [read] at taken
      obtain rfl : c.terms.take n ++ fromTail = examined := Except.ok.inj taken
      refine .inr ⟨Option.some_ne_none tail, ?_⟩
      rw [List.length_append, List.length_take, Sequence.length_readFirst read]
      omega

/-- No more terms are read than are asked for. -/
lemma length_le_of_take (taken : c.take n = .ok examined) : examined.length ≤ n := by
  rcases take_cases taken with ⟨-, rfl⟩ | ⟨-, full⟩
  · exact List.length_take_le n c.terms
  · exact full.le

/-- The terms that were read are the first ones in their number. -/
lemma take_length (taken : c.take n = .ok examined) : c.take examined.length = .ok examined := by
  rcases take_cases taken with ⟨finite, rfl⟩ | ⟨-, full⟩
  · rw [take_of_finite finite, List.length_take, ← List.take_eq_take_min]
  · rw [full, taken]

/-- A cover that gives fewer terms than are asked for is finite, and these are all of them. -/
lemma finite_of_length_lt (taken : c.take n = .ok examined) (short : examined.length < n) :
    c.tail = none ∧ examined = c.terms := by
  rcases take_cases taken with ⟨finite, rfl⟩ | ⟨-, full⟩
  · refine ⟨finite, List.take_of_length_le ?_⟩
    rw [List.length_take] at short
    omega
  · omega

/-- The terms that are read of a finite cover are in its list. -/
lemma subset_of_take (finite : c.tail = none) (taken : c.take n = .ok examined) :
    examined ⊆ c.terms := by
  rw [take_of_finite finite] at taken
  obtain rfl : c.terms.take n = examined := Except.ok.inj taken
  exact List.take_subset n c.terms

end Cover
end LineMeasure
