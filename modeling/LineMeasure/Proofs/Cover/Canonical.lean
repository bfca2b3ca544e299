import LineMeasure.Cover.Canonical
import LineMeasure.Proofs.Cover.Terms
import LineMeasure.Proofs.RealSet.Volume

/-!
# The canonical cover

The canonical cover of a set with a positive excess covers the set (`covers_canonical`), and its sum
is the extent of the set and a share of the excess (`sum_canonical`). The share is the sum of the
halvings that belong to the pieces with a closed right end, so that it is below one whatever their
number is.
-/

namespace LineMeasure.Cover
open LineMeasure.Interval

/-- The part of the excess that a piece receives, by its index. -/
def padShare (index : Nat) (c : Interval) : Rat :=
  if c.rightClosed then 1 / 2 ^ (index + 1) else 0

/-- The part of the excess that the pieces from an index on receive together. -/
def padShares : Nat → List Interval → Rat
  | _, [] => 0
  | index, c :: cs => padShare index c + padShares (index + 1) cs

/-- The pieces behind the first one have indices that are one larger. -/
lemma index_succ {α : Type} (f : Nat → α) (index : Nat) :
    (fun i => f (index + (i + 1))) = fun i => f (index + 1 + i) := by
  funext i
  rw [add_comm i 1, add_assoc]

/-- What the pieces receive together is the sum of their parts. -/
lemma padShares_eq_sum (index : Nat) (cs : List Interval) :
    padShares index cs = (cs.mapIdx fun i => padShare (index + i)).sum := by
  induction cs generalizing index with
  | nil => rfl
  | cons c cs ih =>
    rw [padShares, ih, List.mapIdx_cons, List.sum_cons, index_succ, add_zero]

/-- A piece receives a nonnegative part. -/
lemma padShare_nonneg (index : Nat) (c : Interval) : 0 ≤ padShare index c := by
  unfold padShare
  split
  · positivity
  · exact le_rfl

/-- A piece receives at most its halving. -/
lemma padShare_le (index : Nat) (c : Interval) : padShare index c ≤ 1 / 2 ^ (index + 1) := by
  unfold padShare
  split
  · exact le_rfl
  · positivity

/-- Pieces receive a nonnegative part together. -/
lemma padShares_nonneg (index : Nat) (cs : List Interval) : 0 ≤ padShares index cs := by
  induction cs generalizing index with
  | nil => exact le_rfl
  | cons c cs ih => exact add_nonneg (padShare_nonneg index c) (ih (index + 1))

/-- The halvings from an index on stay below twice the first of them. -/
lemma padShares_lt (index : Nat) (cs : List Interval) : padShares index cs < 1 / 2 ^ index := by
  -- a bound that does not move with the index would not pass to the next piece
  induction cs generalizing index with
  | nil =>
    show (0 : Rat) < 1 / 2 ^ index
    positivity
  | cons c cs ih =>
    have halves : (1 : Rat) / 2 ^ (index + 1) + 1 / 2 ^ (index + 1) = 1 / 2 ^ index := by
      rw [pow_succ]
      field_simp
      norm_num
    calc padShares index (c :: cs) = padShare index c + padShares (index + 1) cs := rfl
      _ < 1 / 2 ^ (index + 1) + 1 / 2 ^ (index + 1) :=
        add_lt_add_of_le_of_lt (padShare_le index c) (ih (index + 1))
      _ = 1 / 2 ^ index := halves

variable {eps x : Rat} {index : Nat} {c : Interval}

/-- All pieces together receive less than the excess. -/
lemma mul_padShares_lt (positive : 0 < eps) (cs : List Interval) : eps * padShares 0 cs < eps := by
  have below := padShares_lt 0 cs
  rw [pow_zero, div_one] at below
  exact mul_lt_of_lt_one_right positive below

/-- A piece keeps its lower end, closed, and its upper end moves by its part of the excess. -/
lemma padded_eq (eps : Rat) (index : Nat) (c : Interval) :
    padded eps index c =
      ⟨c.lower.map fun l => ⟨l.point, true⟩,
        c.upper.map fun u => ⟨u.point + eps * padShare index c, false⟩⟩ := by
  have pad :
      (if c.rightClosed then eps / (Nat.pow 2 (index + 1) : Nat) else 0) =
        eps * padShare index c := by
    unfold padShare
    split
    · rw [mul_one_div]
      norm_cast
    · rw [mul_zero]
  rw [padded, pad]

/-- A piece stays bounded or unbounded. -/
lemma isBounded_padded : (padded eps index c).isBounded = c.isBounded := by
  rw [padded_eq, Interval.isBounded, Interval.isBounded]
  simp

/-- A bounded piece becomes half-open. -/
lemma padded_eq_toInterval (eps : Rat) (index : Nat) (bounded : c.isBounded = true) :
    ∃ t : HalfOpen, padded eps index c = t.toInterval := by
  obtain ⟨l, u, rfl⟩ := exists_ends bounded
  rw [padded_eq]
  exact ⟨⟨l.point, _⟩, rfl⟩

/-- A piece loses no member. -/
lemma mem_padded (positive : 0 < eps) (h : x ∈ c) : x ∈ padded eps index c := by
  obtain ⟨lower, upper⟩ := h
  rw [padded_eq, Interval.mem_iff]
  constructor
  · cases hl : c.lower with
    | none => exact inLower_none x
    | some l =>
      rw [hl, inLower_some] at lower
      refine inLower_some.2 ?_
      rcases lower with above | ⟨_, same⟩
      · exact .inl above
      · exact .inr ⟨rfl, same⟩
  · cases hu : c.upper with
    | none => exact inUpper_none x
    | some u =>
      rw [hu, inUpper_some] at upper
      refine inUpper_some.2 (.inl ?_)
      rcases upper with below | ⟨closed, same⟩
      · have moved := mul_nonneg positive.le (padShare_nonneg index c)
        show x < u.point + eps * padShare index c
        linarith
      · have share : padShare index c = 1 / 2 ^ (index + 1) := by
          rw [padShare, Interval.rightClosed, hu]
          exact if_pos closed
        have moved : 0 < eps * (1 / 2 ^ (index + 1)) := by positivity
        show x < u.point + eps * padShare index c
        rw [share]
        linarith

/-- A half-open interval is bounded. -/
lemma isBounded_toInterval (t : HalfOpen) : t.toInterval.isBounded = true :=
  rfl

/-- The terms of the canonical cover are the pieces that have become half-open. -/
lemma mem_terms_canonical {s : RealSet} {t : HalfOpen} :
    t ∈ (canonical s eps).terms ↔ t.toInterval ∈ s.components.mapIdx (padded eps) := by
  simp only [canonical, List.mem_filterMap, halfOpen?_eq_some_iff, exists_eq_right]

/-- The canonical cover of a bounded set is made of the pieces and nothing else. -/
lemma canonical_of_bounded {s : RealSet} (eps : Rat) (h : s.isBounded = true) :
    (∀ p ∈ s.components.mapIdx (padded eps), ∃ t : HalfOpen, p = t.toInterval) ∧
      (canonical s eps).tail = none := by
  have halves : ∀ p ∈ s.components.mapIdx (padded eps), ∃ t : HalfOpen, p = t.toInterval := by
    intro p hp
    obtain ⟨i, hi, rfl⟩ := List.mem_mapIdx.1 hp
    exact padded_eq_toInterval eps i (List.all_eq_true.1 h _ (List.getElem_mem hi))
  refine ⟨halves, ?_⟩
  have no_others : (s.components.mapIdx (padded eps)).filter (fun c => !c.isBounded) = [] := by
    rw [List.filter_eq_nil_iff]
    intro p hp
    obtain ⟨t, rfl⟩ := halves p hp
    simp [isBounded_toInterval]
  simp [canonical, no_others]

/-- The unbounded pieces as they are covered. -/
def unboundedPieces (s : RealSet) (eps : Rat) : List Interval :=
  (s.components.mapIdx (padded eps)).filter fun c => !c.isBounded

/-- They come from the unbounded pieces of the set. -/
lemma mem_unboundedPieces {s : RealSet} {p : Interval} :
    p ∈ unboundedPieces s eps ↔
      ∃ i, ∃ h : i < s.components.length,
        s.components[i].isBounded = false ∧ padded eps i s.components[i] = p := by
  rw [unboundedPieces, List.mem_filter, List.mem_mapIdx, Bool.not_eq_true']
  constructor
  · rintro ⟨⟨i, hi, rfl⟩, unbounded⟩
    exact ⟨i, hi, isBounded_padded ▸ unbounded, rfl⟩
  · rintro ⟨i, hi, unbounded, rfl⟩
    exact ⟨⟨i, hi, rfl⟩, isBounded_padded.trans unbounded⟩

/-- An unbounded set has unbounded pieces. -/
lemma unboundedPieces_ne_nil {s : RealSet} (h : s.isBounded = false) :
    unboundedPieces s eps ≠ [] := by
  obtain ⟨c, hc, unbounded⟩ := List.all_eq_false.1 h
  obtain ⟨i, hi, rfl⟩ := List.mem_iff_getElem.1 hc
  exact List.ne_nil_of_mem
    (mem_unboundedPieces.2 ⟨i, hi, Bool.eq_false_of_not_eq_true unbounded, rfl⟩)

/-- The tail of the canonical cover takes the steps of the unbounded pieces in turn. -/
lemma tail_canonical_of_unbounded {s : RealSet} (eps : Rat) (h : s.isBounded = false) :
    ∃ tail, (canonical s eps).tail = some tail ∧ tail.total = .infinite ∧
      tail.span = some (.ofIntervals (unboundedPieces s eps)) ∧
      ∀ n, tail.term n = .ok (interleavedStep (unboundedPieces s eps) n).toInterval := by
  have endless : (unboundedPieces s eps).isEmpty = false :=
    List.isEmpty_eq_false_iff.2 (unboundedPieces_ne_nil h)
  exact ⟨_, if_neg (Bool.not_eq_true _ ▸ endless), rfl, rfl, fun n => rfl⟩

/-- The bounded pieces become the terms of the canonical cover. -/
lemma mem_unionOf_pieces {s : RealSet} :
    x ∈ unionOf (canonical s eps).terms ↔
      ∃ p ∈ s.components.mapIdx (padded eps), p.isBounded = true ∧ x ∈ p := by
  rw [unionOf, RealSet.mem_ofIntervals]
  constructor
  · rintro ⟨p, hp, hx⟩
    obtain ⟨t, ht, rfl⟩ := List.mem_map.1 hp
    exact ⟨t.toInterval, mem_terms_canonical.1 ht, isBounded_toInterval t, hx⟩
  · rintro ⟨p, hp, bounded, hx⟩
    obtain ⟨i, hi, rfl⟩ := List.mem_mapIdx.1 hp
    obtain ⟨t, ht⟩ := padded_eq_toInterval eps i (isBounded_padded ▸ bounded)
    exact ⟨t.toInterval, List.mem_map.2 ⟨t, mem_terms_canonical.2 (ht ▸ hp), rfl⟩, ht ▸ hx⟩

/-- The union of the canonical cover is that of all pieces; its tail declares the unbounded ones. -/
lemma union_canonical (s : RealSet) (eps : Rat) (count : Option Nat) :
    (canonical s eps).union count = .ok (.ofIntervals (s.components.mapIdx (padded eps))) := by
  cases h : s.isBounded with
  | true =>
    obtain ⟨halves, finite⟩ := canonical_of_bounded eps h
    rw [union, finite]
    refine congrArg Except.ok ?_
    ext x
    rw [mem_unionOf_pieces, RealSet.mem_ofIntervals]
    refine exists_congr fun p => and_congr_right fun hp => and_iff_right ?_
    obtain ⟨t, rfl⟩ := halves p hp
    exact isBounded_toInterval t
  | false =>
    obtain ⟨tail, endless, -, span, -⟩ := tail_canonical_of_unbounded eps h
    rw [union, endless]
    simp only [span]
    refine congrArg Except.ok ?_
    ext x
    rw [RealSet.mem_union, mem_unionOf_pieces, RealSet.mem_ofIntervals, RealSet.mem_ofIntervals,
      unboundedPieces]
    simp only [List.mem_filter, Bool.not_eq_true']
    constructor
    · rintro (⟨p, hp, -, hx⟩ | ⟨p, ⟨hp, -⟩, hx⟩)
      · exact ⟨p, hp, hx⟩
      · exact ⟨p, hp, hx⟩
    · rintro ⟨p, hp, hx⟩
      cases hb : p.isBounded with
      | true => exact .inl ⟨p, hp, hb, hx⟩
      | false => exact .inr ⟨p, ⟨hp, hb⟩, hx⟩

/-- The canonical cover with a positive excess covers the set. -/
theorem covers_canonical (s : RealSet) (positive : 0 < eps) (count : Option Nat) :
    (canonical s eps).covers s count = .ok true := by
  have included : s ⊆ .ofIntervals (s.components.mapIdx (padded eps)) := by
    rintro x ⟨c, hc, hx⟩
    obtain ⟨i, hi, rfl⟩ := List.mem_iff_getElem.1 hc
    rw [RealSet.mem_ofIntervals]
    exact ⟨_, List.mem_mapIdx.2 ⟨i, hi, rfl⟩, mem_padded positive hx⟩
  rw [covers, union_canonical]
  exact congrArg Except.ok (RealSet.isSubset_iff.2 included)

/-- A half-open interval is as long as its extent. -/
@[simp]
lemma extent_toInterval (t : HalfOpen) : t.toInterval.extent = t.length :=
  rfl

/-- Half-open intervals are as long as their extents. -/
lemma map_extent_toInterval (terms : List HalfOpen) :
    (terms.map HalfOpen.toInterval).map Interval.extent = terms.map HalfOpen.length := by
  rw [List.map_map]
  exact List.map_congr_left fun t _ => extent_toInterval t

/-- A bounded piece grows by its part of the excess. -/
lemma extent_padded (index : Nat) (nonneg : 0 ≤ eps) (bounded : c.isBounded = true)
    (nonempty : c.isEmpty = false) :
    (padded eps index c).extent = c.extent + .ofPositivePart (eps * padShare index c) := by
  obtain ⟨l, u, rfl⟩ := exists_ends bounded
  have moved := mul_nonneg nonneg (padShare_nonneg index ⟨some l, some u⟩)
  rw [padded_eq, Interval.extent,
    ← ENNRat.ofPositivePart_add (sub_nonneg.2 (le_of_nonempty nonempty)) moved]
  simp only [Option.map_some, Interval.extent]
  congr 1
  ring

/-- The lengths of the terms that are made of half-open intervals are their extents. -/
lemma lengths_halfOpen {ps : List Interval} (h : ∀ p ∈ ps, ∃ t : HalfOpen, p = t.toInterval) :
    (ps.filterMap Interval.halfOpen?).map HalfOpen.length = ps.map Interval.extent := by
  induction ps with
  | nil => rfl
  | cons p ps ih =>
    obtain ⟨t, rfl⟩ := h p List.mem_cons_self
    have rest := ih fun q hq => h q (List.mem_cons_of_mem _ hq)
    rw [List.filterMap_cons_some (halfOpen?_eq_some_iff.2 rfl), List.map_cons, List.map_cons, rest,
      extent_toInterval]

/-- The bounded pieces from an index on grow by their parts of the excess. -/
lemma sum_extent_padded {cs : List Interval} (index : Nat) (nonneg : 0 ≤ eps)
    (bounded : ∀ c ∈ cs, c.isBounded = true) (nonempty : ∀ c ∈ cs, c.isEmpty = false) :
    ENNRat.sum ((cs.mapIdx fun i => padded eps (index + i)).map Interval.extent) =
      ENNRat.sum (cs.map Interval.extent) + .ofPositivePart (eps * padShares index cs) := by
  -- the part of a piece depends on its place in the whole list, which the index remembers
  induction cs generalizing index with
  | nil =>
    rw [padShares, mul_zero, ENNRat.ofPositivePart_zero, List.mapIdx_nil, add_zero]
  | cons c cs ih =>
    have first :=
      extent_padded index nonneg (bounded c List.mem_cons_self) (nonempty c List.mem_cons_self)
    have rest := ih (index + 1) (fun d hd => bounded d (List.mem_cons_of_mem _ hd))
      fun d hd => nonempty d (List.mem_cons_of_mem _ hd)
    rw [List.mapIdx_cons, index_succ, List.map_cons, ENNRat.sum_cons, rest, add_zero, first,
      padShares, mul_add, ENNRat.ofPositivePart_add (mul_nonneg nonneg (padShare_nonneg index c))
        (mul_nonneg nonneg (padShares_nonneg (index + 1) cs)), List.map_cons, ENNRat.sum_cons]
    exact add_add_add_comm _ _ _ _

/-- The canonical cover of an unbounded set has an infinite sum. -/
lemma sum_canonical_of_unbounded {s : RealSet} (h : s.isBounded = false) :
    (canonical s eps).sum = .infinite := by
  obtain ⟨t, tail, infinite, -⟩ := tail_canonical_of_unbounded eps h
  rw [sum_eq_total, total, withTail, tail]
  simp only [infinite, ENNRat.add_infinite]

/-- The sum of the canonical cover is the extent of the set and a share of the excess. -/
theorem sum_canonical (s : RealSet) (nonneg : 0 ≤ eps) :
    (canonical s eps).sum = s.extent + .ofPositivePart (eps * padShares 0 s.components) := by
  cases h : s.isBounded with
  | true =>
    obtain ⟨halves, tail⟩ := canonical_of_bounded eps h
    have sum := sum_extent_padded 0 nonneg (List.all_eq_true.1 h) s.normal.nonempty
    simp only [Nat.zero_add] at sum
    rw [sum_eq_total, total, withTail, tail]
    show ENNRat.sum
      (((s.components.mapIdx (padded eps)).filterMap Interval.halfOpen?).map HalfOpen.length) = _
    rw [lengths_halfOpen halves, sum]
    rfl
  | false => rw [sum_canonical_of_unbounded h, RealSet.extent_of_unbounded h, ENNRat.infinite_add]

end LineMeasure.Cover
