import LineMeasure.Proofs.Cover.Steps
import LineMeasure.Proofs.Cover.Terms

/-!
# The terms of a canonical cover

What a canonical cover declares agrees with its terms, one by one. Every term is half-open
(`isHalfOpen_canonical`), and the terms reach every member of the set (`exists_term_canonical`). For
a bounded set the sum is above the widths of the pieces by less than the excess; for an unbounded
one the terms of the tail fill the union that it declares (`exists_mem_tail_iff`), and their partial
sums grow without bound.
-/

namespace LineMeasure.Cover
open LineMeasure.Interval

variable {s : RealSet} {eps x : Rat}

/-- The terms of a canonical cover are half-open. -/
lemma isHalfOpen_canonical (s : RealSet) (eps : Rat) : (canonical s eps).IsHalfOpen := by
  cases h : s.isBounded with
  | true => exact IsHalfOpen.of_finite (canonical_of_bounded eps h).2
  | false =>
    obtain ⟨tail, endless, -, -, made⟩ := tail_canonical_of_unbounded eps h
    intro other isTail n
    obtain rfl : tail = other := Option.some.inj (endless.symm.trans isTail)
    exact ⟨_, made n⟩

/-- The terms of the tail fill the union that it declares. -/
lemma exists_mem_tail_iff (h : s.isBounded = false) :
    (∃ n, x ∈ (interleavedStep (unboundedPieces s eps) n).toInterval) ↔
      x ∈ RealSet.ofIntervals (unboundedPieces s eps) := by
  rw [exists_mem_interleavedStep_iff (unboundedPieces_ne_nil h), RealSet.mem_ofIntervals]
  refine exists_congr fun p => and_congr_right fun hp => ?_
  obtain ⟨i, hi, unbounded, rfl⟩ := mem_unboundedPieces.1 hp
  exact exists_mem_unitStep_iff unbounded

/-- Every member of the set lies in some term of a canonical cover. -/
lemma exists_term_canonical (positive : 0 < eps) (hx : x ∈ s) :
    ∃ n t, (canonical s eps).term n = .ok t ∧ x ∈ t.toInterval := by
  obtain ⟨c, hc, member⟩ := hx
  obtain ⟨i, hi, rfl⟩ := List.mem_iff_getElem.1 hc
  have padded_member : x ∈ padded eps i s.components[i] := mem_padded positive member
  cases bounded : s.components[i].isBounded with
  | true =>
    obtain ⟨t, ht⟩ := padded_eq_toInterval eps i bounded
    have listed : t ∈ (canonical s eps).terms :=
      mem_terms_canonical.2 (List.mem_mapIdx.2 ⟨i, hi, ht⟩)
    obtain ⟨n, found⟩ := exists_term_of_mem listed
    exact ⟨n, t, found, ht ▸ padded_member⟩
  | false =>
    have endless : s.isBounded = false := List.all_eq_false.2 ⟨_, hc, by rw [bounded]; decide⟩
    obtain ⟨tail, isTail, -, -, made⟩ := tail_canonical_of_unbounded eps endless
    have declared : x ∈ RealSet.ofIntervals (unboundedPieces s eps) :=
      RealSet.mem_ofIntervals.2 ⟨_, mem_unboundedPieces.2 ⟨i, hi, bounded, rfl⟩, padded_member⟩
    obtain ⟨n, reached⟩ := (exists_mem_tail_iff endless).2 declared
    exact ⟨_, _, term_of_tail isTail (made n), reached⟩

/-- The sum of the canonical cover of a bounded set is above the widths of the pieces by a part of
the excess. -/
lemma sum_canonical_of_bounded (positive : 0 < eps) (h : s.isBounded = true) :
    ∃ nonneg, (canonical s eps).sum =
      .finite (s.totalWidth + eps * (s.components.mapIdx padShare).sum) nonneg := by
  obtain ⟨nonneg, extent⟩ := RealSet.extent_of_bounded h
  have shares : padShares 0 s.components = (s.components.mapIdx padShare).sum := by
    rw [padShares_eq_sum]
    simp only [Nat.zero_add]
  have share : 0 ≤ eps * (s.components.mapIdx padShare).sum :=
    mul_nonneg positive.le (shares ▸ padShares_nonneg 0 s.components)
  rw [sum_canonical s positive.le, extent, shares, ENNRat.ofPositivePart_of_nonneg share,
    ENNRat.finite_add_finite]
  exact ⟨add_nonneg nonneg share, rfl⟩

/-- The parts of the excess stay below the whole of it. -/
lemma mul_sum_padShare_lt (positive : 0 < eps) (cs : List Interval) :
    eps * (cs.mapIdx padShare).sum < eps := by
  have below := mul_padShares_lt positive cs
  rw [padShares_eq_sum] at below
  simpa only [Nat.zero_add] using below

/-- When all terms of a tail have length one, the partial sums grow without bound. -/
lemma exists_partialSums_gt {c : Cover} {tail : Tail} {f : Nat → HalfOpen}
    (endless : c.tail = some tail)
    (made : ∀ n, tail.term n = .ok (f n).toInterval) (unit : ∀ n, (f n).right - (f n).left = 1)
    (bound : Rat) :
    ∃ count sums, c.partialSums (some count) = .ok sums ∧
      ∃ m nonneg, .finite m nonneg ∈ sums ∧ bound < m := by
  obtain ⟨n, hn⟩ := exists_nat_gt bound
  obtain ⟨examined, read⟩ : ∃ examined, examined = c.terms ++ (List.range (n + 1)).map f := ⟨_, rfl⟩
  have taken : c.take (c.terms.length + (n + 1)) = .ok examined := by
    rw [take_of_endless endless made, List.take_of_length_le (Nat.le_add_right _ _),
      Nat.add_sub_cancel_left, read]
  have nonempty : examined.map HalfOpen.length ≠ [] := by simp [read]
  obtain ⟨nonneg, total⟩ := sum_lengths_eq_finite examined
  have last := add_sum_mem_runningSums nonempty 0
  rw [zero_add, total] at last
  refine ⟨_, _, partialSums_of_take taken, _, nonneg, last, ?_⟩
  have width (k : Nat) : (f k).width = 1 := by
    rw [HalfOpen.width, unit, Rational.positivePart_of_nonneg zero_le_one]
  -- the terms of the list may be of any length, but they do not lower the sum
  obtain ⟨first, -⟩ := sum_lengths_eq_finite c.terms
  calc bound < n := hn
    _ ≤ (c.terms.map HalfOpen.width).sum + (n + 1 : Nat) := by
      push_cast
      linarith
    _ = (examined.map HalfOpen.width).sum := by simp [read, Function.comp_def, width]

/-- What a canonical cover declares agrees with its terms, which reach every member of the set. -/
theorem canonical_termwise (s : RealSet) {eps : Rat} (positive : 0 < eps) :
    (∀ n, ∃ t, (canonical s eps).term n = .ok t) ∧
      (∀ x ∈ s, ∃ n t, (canonical s eps).term n = .ok t ∧ x ∈ t.toInterval) ∧
      (s.isBounded = true ∧ (canonical s eps).isFinite = true ∧
          (∃ nonneg, (canonical s eps).sum =
            .finite (s.totalWidth + eps * (s.components.mapIdx padShare).sum) nonneg) ∧
          s.totalWidth + eps * (s.components.mapIdx padShare).sum < s.totalWidth + eps ∨
        s.isBounded = false ∧ ∃ tail span,
          (canonical s eps).tail = some tail ∧ tail.span = some span ∧
          tail.total = .infinite ∧
          (∀ n, ∃ t : HalfOpen, tail.term n = .ok t.toInterval ∧ t.right - t.left = 1) ∧
          (∀ x, x ∈ span ↔ ∃ n, ∃ t : HalfOpen, tail.term n = .ok t.toInterval ∧ x ∈ t.toInterval) ∧
          ∀ bound : Rat, ∃ count sums, (canonical s eps).partialSums (some count) = .ok sums ∧
            ∃ m nonneg, .finite m nonneg ∈ sums ∧ bound < m) := by
  refine ⟨(isHalfOpen_canonical s eps).exists_term,
    fun x hx => exists_term_canonical positive hx, ?_⟩
  cases h : s.isBounded with
  | true =>
    have finite : (canonical s eps).isFinite = true := by
      rw [isFinite, (canonical_of_bounded eps h).2]
      rfl
    have below := add_lt_add_right (mul_sum_padShare_lt positive s.components) s.totalWidth
    exact .inl ⟨rfl, finite, sum_canonical_of_bounded positive h, below⟩
  | false =>
    obtain ⟨tail, isTail, total, span, made⟩ := tail_canonical_of_unbounded eps h
    have unit (n : Nat) : (interleavedStep (unboundedPieces s eps) n).right -
        (interleavedStep (unboundedPieces s eps) n).left = 1 :=
          length_interleavedStep (unboundedPieces_ne_nil h) n
    refine .inr ⟨rfl, tail, _, isTail, span, total, fun n => ⟨_, made n, unit n⟩, fun x => ?_, ?_⟩
    · rw [← exists_mem_tail_iff h]
      constructor
      · rintro ⟨n, hx⟩
        exact ⟨n, _, made n, hx⟩
      · rintro ⟨n, t, term, hx⟩
        refine ⟨n, ?_⟩
        rw [made n] at term
        exact Except.ok.inj term ▸ hx
    · exact exists_partialSums_gt isTail made unit

/-- The canonical cover of a closed ray and a point: the point has a term, and the steps fill the
ray and its padding. -/
theorem canonical_termwise_ray :
    let s := RealSet.ofIntervals [⟨none, some ⟨0, true⟩⟩, .point 1]
    let c := canonical s (1 / 3)
    (0 : Rat) < 1 / 3 ∧ (∃ n t, c.term n = .ok t ∧ 1 ∈ t.toInterval) ∧
      ∃ tail span, c.tail = some tail ∧ tail.span = some span ∧ tail.total = .infinite ∧
        (∀ n, ∃ t : HalfOpen, tail.term n = .ok t.toInterval ∧ t.right - t.left = 1) ∧
        (∀ x, x ∈ span ↔ ∃ n, ∃ t : HalfOpen, tail.term n = .ok t.toInterval ∧ x ∈ t.toInterval) ∧
        ∀ bound : Rat, ∃ count sums, c.partialSums (some count) = .ok sums ∧
          ∃ m nonneg, .finite m nonneg ∈ sums ∧ bound < m := by
  intro s c
  have positive : (0 : Rat) < 1 / 3 := by decide +kernel
  have unbounded : s.isBounded = false := by cbv
  have member : 1 ∈ s := RealSet.mem_ofIntervals.2 ⟨.point 1, by simp, by decide⟩
  obtain ⟨-, members, ⟨bounded, -⟩ | ⟨-, endless⟩⟩ := canonical_termwise s positive
  · rw [unbounded] at bounded
    cases bounded
  · exact ⟨positive, members 1 member, endless⟩

end LineMeasure.Cover
