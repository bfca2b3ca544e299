import LineMeasure.Proofs.Cover.Indices
import LineMeasure.Proofs.ENNRat.PartialSums

/-!
# The views of a cover agree

A cover can be looked at by the index of a term, by reading its first terms, by their lengths, by
partial sums and by its total. As far as its terms are half-open, reading them gives the terms at
their indices (`IsHalfOpenTo.exists_take`), and the first term that is not half-open ends both in
the same way, under its index in the whole cover (`take_of_term_error`). Behind the end of a finite
cover the terms are empty. The partial sums are the sums of the first lengths (`partialSums_eq`),
one for every term among those asked for, unless more are asked for than can be; so they rise to the
total of a finite cover, which is the last of them all.
-/

namespace LineMeasure

namespace Cover

/-- The first `n` terms of a cover are half-open, as far as there are any. -/
def IsHalfOpenTo (c : Cover) (n : Nat) : Prop :=
  ∀ tail ∈ c.tail, ∀ i, c.terms.length + i < n → ∃ t : HalfOpen, tail.term i = .ok t.toInterval

variable {c : Cover} {k m n : Nat} {e : Error} {terms : List HalfOpen}

/-- All terms of a half-open cover are half-open, so the first ones are. -/
lemma IsHalfOpen.isHalfOpenTo (halfOpen : c.IsHalfOpen) (n : Nat) : c.IsHalfOpenTo n :=
  fun tail isTail i _ => halfOpen tail isTail i

/-- Each of the half-open terms is found at its index. -/
lemma IsHalfOpenTo.exists_term (halfOpen : c.IsHalfOpenTo n) (lt : k < n) : ∃ t, c.term k = .ok t :=
  exists_term_of_tail fun tail endless i place => halfOpen tail endless i (place ▸ lt)

/-- Reading the half-open terms gives the terms at their indices. -/
lemma IsHalfOpenTo.exists_take (halfOpen : c.IsHalfOpenTo n) :
    ∃ terms, c.take n = .ok terms ∧ terms.length = c.available n ∧
      ∀ k t, terms[k]? = some t → c.term k = .ok t := by
  have there : ∀ k ∈ List.range (c.available n), ∃ t, c.term k = .ok t :=
    fun k hk => halfOpen.exists_term ((List.mem_range.1 hk).trans_le (available_le c n))
  obtain ⟨terms, read, forms⟩ := exists_mapM_eq_ok there
  have taken : c.take n = .ok terms := by
    rw [take_eq_mapM, List.mapM_map]
    exact read
  refine ⟨terms, taken, length_of_take taken, fun k t found => ?_⟩
  obtain ⟨inside, rfl⟩ := List.getElem?_eq_some_iff.1 found
  have form := forms.get (forms.length_eq ▸ inside) inside
  simpa using form

/-- A term that fails ends all reading that comes to it, in the same way. -/
lemma take_of_term_error (halfOpen : c.IsHalfOpenTo n) (endless : c.tail ≠ none)
    (fails : c.term n = .error e) (lt : n < m) : c.take m = .error e := by
  have before : ∀ k ∈ List.range n, ∃ t, c.term k = .ok t :=
    fun k hk => halfOpen.exists_term (List.mem_range.1 hk)
  obtain ⟨d, rfl⟩ := Nat.exists_eq_add_of_lt lt
  rw [take_eq_mapM, available_of_endless endless, List.mapM_map, add_assoc, List.range_add,
    List.range_succ_eq_map, List.map_cons]
  exact mapM_eq_error before fails

/-- A term of the tail that is not half-open is refused under its index in the whole cover. -/
lemma term_of_not_halfOpen {tail : Tail} {i : Interval} (endless : c.tail = some tail)
    (made : tail.term n = .ok i) (other : i.isHalfOpen = false) :
    c.term (c.terms.length + n) = .error (.cover (.term (c.terms.length + n) i)) := by
  have refused : i.halfOpen? = none :=
    Option.isSome_eq_false_iff.1 other |> Option.isNone_iff_eq_none.1
  rw [term_length_add endless, tailTerm, made]
  show checkTerm _ i = _
  rw [checkTerm, refused]

/-- The partial sums are the sums of the first lengths. -/
lemma partialSums_eq (taken : c.take n = .ok terms) :
    c.partialSums (some n) =
      .ok ((List.range terms.length).map fun j =>
        ENNRat.sum ((terms.map HalfOpen.length).take (j + 1))) := by
  rw [partialSums_of_take taken, runningSums_eq_map, List.length_map]
  simp only [zero_add]

/-- A finite cover has the sum of all its lengths as its total. -/
lemma total_of_finite (finite : c.tail = none) :
    c.total = ENNRat.sum (c.terms.map HalfOpen.length) := by
  rw [total, withTail, finite]

/-- No partial sum of a finite cover is above its total. -/
lemma le_total_of_mem_partialSums {count : Option Nat} {sums : List ENNRat} {a : ENNRat}
    (finite : c.tail = none)
    (h : c.partialSums count = .ok sums) (mem : a ∈ sums) : a ≤ c.total := by
  have taken := take_of_finite finite (count.getD c.termCount)
  have same : c.partialSums count = c.partialSums (some (count.getD c.termCount)) := rfl
  rw [same, partialSums_eq taken] at h
  obtain rfl := Except.ok.inj h
  obtain ⟨j, -, rfl⟩ := List.mem_map.1 mem
  rw [total_of_finite finite, List.map_take, List.take_take]
  exact ENNRat.sum_take_le _ _

/-- The last of all partial sums of a finite cover is its total; without terms this is zero. -/
lemma getLastD_partialSums (finite : c.tail = none) :
    ∃ sums, c.partialSums none = .ok sums ∧ sums.length = c.terms.length ∧
      sums.getLastD 0 = c.total := by
  have taken : c.take c.termCount = .ok c.terms := by
    rw [take_of_finite finite, termCount, finite, List.take_length]
  refine ⟨_, partialSums_eq taken, by rw [List.length_map, List.length_range], ?_⟩
  rw [total_of_finite finite]
  cases c.terms with
  | nil => rfl
  | cons t ts => simp [List.range_succ, List.take_of_length_le]

end Cover

namespace Given
variable {c : Cover}

/-- A count that can be asked for is passed on. -/
lemma partialSums_of_le {k : Nat} (allowed : k ≤ Sequence.maxCount) :
    partialSums c (some k) = c.partialSums (some k) := by
  have accepted : count? (some (k : Int)) = .ok (some k) :=
    count?_of_le (some k) (by simpa using allowed)
  rw [partialSums, accepted]
  rfl

/-- A count that is too large is refused, whatever the terms are. -/
lemma partialSums_of_lt {k : Nat} (tooMany : Sequence.maxCount < k) :
    partialSums c (some k) = .error .count := by
  rw [partialSums, count?_of_lt tooMany]
  rfl

/-- Partial sums that are given are those of some count. -/
lemma exists_partialSums_eq {count : Option Int} {sums : List ENNRat}
    (h : partialSums c count = .ok sums) :
    ∃ n, c.partialSums n = .ok sums := by
  rw [partialSums] at h
  cases read : count? count with
  | error e =>
    rw [read] at h
    cases h
  | ok n =>
    rw [read] at h
    exact ⟨n, h⟩

end Given

namespace Cover

/-- Partial sums of half-open terms rise, and there is one for every term that is asked for. -/
lemma IsHalfOpenTo.partialSums_exact {c : Cover} {k : Nat} (halfOpen : c.IsHalfOpenTo k) :
    k ≤ Sequence.maxCount ∧
        (∃ lens sums, c.lengths k = .ok lens ∧ Given.partialSums c (some k) = .ok sums ∧
          sums.length = c.available k ∧ sums.Pairwise (· ≤ ·) ∧
          ∀ j < sums.length, ∃ a, sums[j]? = some a ∧
            ENNRat.tsum (lens.map .ok) (some (j + 1)) = (.ok a : Except Error ENNRat)) ∨
      Sequence.maxCount < k ∧ Given.partialSums c (some k) = .error .count := by
  rcases le_or_gt k Sequence.maxCount with allowed | tooMany
  · obtain ⟨terms, taken, length, -⟩ := halfOpen.exists_take
    have lengths : c.lengths k = .ok (terms.map HalfOpen.length) := by
      rw [Cover.lengths, taken]
      rfl
    have sums := (Given.partialSums_of_le allowed).trans (partialSums_eq taken)
    refine .inl ⟨allowed, _, _, lengths, sums, ?_, ?_, fun j there => ?_⟩
    · rw [List.length_map, List.length_range, length]
    · refine List.pairwise_map.2 (List.pairwise_lt_range.imp fun lt => ?_)
      exact ENNRat.sum_take_mono _ (Nat.succ_le_succ lt.le)
    · rw [List.length_map, List.length_range] at there
      refine ⟨_, ?_, ENNRat.tsum_take _ (j + 1)⟩
      simp [there]
  · exact .inr ⟨tooMany, Given.partialSums_of_lt tooMany⟩

/-- The views of a cover agree on its terms, on the first fault among them and on its total. -/
theorem views_agree (c : Cover) :
    (∀ n, c.IsHalfOpenTo (n + 1) → c.available (n + 1) = n + 1 →
      ∃ terms t, c.take (n + 1) = .ok terms ∧ terms[n]? = some t ∧ c.term n = .ok t) ∧
    (c.isFinite = true → ∀ n, c.terms.length ≤ n → c.term n = .ok ⟨0, 0⟩) ∧
    (∀ tail m i, c.tail = some tail → c.IsHalfOpenTo (c.terms.length + m) → tail.term m = .ok i →
      i.isHalfOpen = false →
      (∃ terms, c.take (c.terms.length + m) = .ok terms ∧ terms.length = c.terms.length + m ∧
        ∀ k t, terms[k]? = some t → c.term k = .ok t) ∧
      c.term (c.terms.length + m) = .error (.cover (.term (c.terms.length + m) i)) ∧
      ∀ n, c.terms.length + m < n → c.take n = .error (.cover (.term (c.terms.length + m) i))) ∧
    (∀ k, c.IsHalfOpenTo k →
      k ≤ Sequence.maxCount ∧
          (∃ lens sums, c.lengths k = .ok lens ∧ Given.partialSums c (some k) = .ok sums ∧
            sums.length = c.available k ∧ sums.Pairwise (· ≤ ·) ∧
            ∀ j < sums.length, ∃ a, sums[j]? = some a ∧
              ENNRat.tsum (lens.map .ok) (some (j + 1)) = (.ok a : Except Error ENNRat)) ∨
        Sequence.maxCount < k ∧ Given.partialSums c (some k) = .error .count) ∧
    c.total = c.sum ∧
    (c.isFinite = true →
      (∃ sums, Given.partialSums c none = .ok sums ∧ sums.length = c.terms.length ∧
        sums.getLastD 0 = c.total) ∧
      ∀ count sums, Given.partialSums c count = .ok sums → ∀ a ∈ sums, a ≤ c.total) := by
  refine ⟨fun n halfOpen there => ?_,
    fun finite n behind => term_of_finite (Option.isNone_iff_eq_none.1 finite) behind,
    fun tail m i isTail halfOpen made other => ?_, fun k halfOpen => halfOpen.partialSums_exact,
    (sum_eq_total c).symm, fun finite => ?_⟩
  · obtain ⟨terms, taken, length, found⟩ := halfOpen.exists_take
    have last : n < terms.length := by omega
    have entry := List.getElem?_eq_getElem last
    exact ⟨terms, terms[n], taken, entry, found n _ entry⟩
  · have endless : c.tail ≠ none := isTail ▸ Option.some_ne_none tail
    have fails := term_of_not_halfOpen isTail made other
    obtain ⟨terms, taken, length, found⟩ := halfOpen.exists_take
    rw [available_of_endless endless] at length
    exact ⟨⟨terms, taken, length, found⟩, fails,
      fun n lt => take_of_term_error halfOpen endless fails lt⟩
  · have ends := Option.isNone_iff_eq_none.1 finite
    refine ⟨getLastD_partialSums ends, fun count sums h a mem => ?_⟩
    obtain ⟨n, same⟩ := Given.exists_partialSums_eq h
    exact le_total_of_mem_partialSums ends same mem

/-- A cover with one term in its list, whose tail goes on with another one, a step that is closed
and no further terms. -/
theorem views_agree_closedStep :
    let steps : Nat → Except Error Interval := fun n =>
      if n = 0 then .ok (.ico 1 3) else .ok ⟨some ⟨3, true⟩, some ⟨4, true⟩⟩
    let c : Cover := ⟨[⟨0, 1⟩], some ⟨steps, .infinite, none, "steps"⟩⟩
    let closed : Interval := ⟨some ⟨3, true⟩, some ⟨4, true⟩⟩
    c.IsHalfOpenTo 2 ∧ closed.isHalfOpen = false ∧
      (∃ terms, c.take 2 = .ok terms ∧ terms.length = 2) ∧
      c.term 2 = .error (.cover (.term 2 closed)) ∧
        (∀ n, 2 < n → c.take n = .error (.cover (.term 2 closed))) ∧
      ∃ sums, Given.partialSums c (some 2) = .ok sums ∧ sums.length = 2 ∧
        sums.Pairwise (· ≤ ·) := by
  intro steps c closed
  have halfOpen : c.IsHalfOpenTo 2 := by
    rintro tail ⟨⟩ i inside
    obtain rfl : i = 0 := by
      change 1 + i < 2 at inside
      omega
    exact ⟨⟨1, 3⟩, rfl⟩
  obtain ⟨-, -, failing, partials, -⟩ := views_agree c
  obtain ⟨⟨terms, taken, length, -⟩, fails, ends⟩ := failing _ 1 closed rfl halfOpen rfl rfl
  refine ⟨halfOpen, rfl, ⟨terms, taken, length⟩, fails, ends, ?_⟩
  rcases partials 2 halfOpen with ⟨-, lens, sums, -, given, count, rising, -⟩ | ⟨tooMany, -⟩
  · exact ⟨sums, given, count, rising⟩
  · exact absurd tooMany (by decide)

/-- The partial sums of a cover with one term can be asked for in a number that is refused, although
the term is half-open and has a length. -/
theorem partialSums_tooManyTerms :
    let c : Cover := ⟨[⟨0, 1⟩], none⟩
    c.IsHalfOpenTo 9223372036854775808 ∧ c.available 9223372036854775808 = 1 ∧
      c.lengths 9223372036854775808 = .ok [1] ∧
      Given.partialSums c (some 9223372036854775808) = .error .count := by
  intro c
  have one : HalfOpen.length ⟨0, 1⟩ = 1 := by decide +kernel
  exact ⟨(IsHalfOpen.of_finite rfl).isHalfOpenTo _, rfl, congrArg (fun a => Except.ok [a]) one, rfl⟩

end Cover
end LineMeasure
