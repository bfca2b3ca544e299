import LineMeasure.Proofs.Cover.Canonical
import LineMeasure.Proofs.Cover.Views
import LineMeasure.Proofs.ENNRat.Semiring
import Mathlib.Algebra.Order.Archimedean.Basic

/-!
# Covers of sequences of points

The terms for the points of a sequence halve from one to the next, so the first `k` of them take up
`eps * (1 - 1 / 2 ^ k)` of an excess, whatever the points are (`sum_length_pointTerm`). An endless
sequence comes as close to the whole excess as one likes without taking it up (`isLUB_partialSums`),
which is what the cover declares; and a listed one of `m` points has that sum for `m` as its total.
-/

namespace LineMeasure

namespace Value
variable {vs : List Value} {qs : List Rat}

/-- Values that stand for numbers are read one by one. -/
lemma mapM_of_toRat {ε β : Type} {f : Value → Except ε β} {g : Rat → β}
    (h : ∀ v q, v.toRat = .ok q → f v = .ok (g q))
    (stand : vs.map toRat = qs.map .ok) : vs.mapM f = .ok (qs.map g) := by
  induction vs generalizing qs with
  | nil =>
    obtain rfl := List.map_eq_nil_iff.1 stand.symm
    rfl
  | cons v vs ih =>
    obtain ⟨q, rest, rfl, first, others⟩ := List.map_eq_cons_iff.1 stand.symm
    rw [List.mapM_cons, h v q first.symm, ih others.symm]
    rfl

lemma real_of_toRat {v : Value} {q : Rat} (h : v.toRat = .ok q) (name : String) :
    v.real name = .ok q := by
  rw [real, h]
  rfl

/-- A number is a finite end, since null is none. -/
lemma toEnd_of_toRat {v : Value} {q : Rat} (h : v.toRat = .ok q) : v.toEnd = .ok (some q) := by
  unfold toEnd
  split
  · cases h
  · rw [h]

/-- The values that are read as positive numbers are those that stand for one. -/
lemma positive_eq_ok_iff {v : Value} {q : Rat} {name : String} :
    v.positive name = .ok q ↔ v.toRat = .ok q ∧ 0 < q := by
  rw [positive, toPositive]
  cases read : v.toRat with
  | error fault => exact iff_of_false (fun h => by cases h) fun h => by cases h.1
  | ok p =>
    change Except.mapError _ (if p ≤ 0 then _ else _) = _ ↔ _
    split
    · refine iff_of_false (fun h => by cases h) fun h => ?_
      obtain rfl : p = q := Except.ok.inj h.1
      exact absurd h.2 (not_lt.2 ‹_›)
    · constructor
      · intro h
        obtain rfl : p = q := Except.ok.inj h
        exact ⟨rfl, not_le.1 ‹_›⟩
      · exact fun h => congrArg Except.ok (Except.ok.inj h.1)

end Value

namespace RealSet

/-- The points of a list are the members of their set. -/
lemma mem_ofPoints {qs : List Rat} {x : Rat} : x ∈ ofPoints qs ↔ x ∈ qs := by
  have point (p : Rat) : x ∈ Interval.point p ↔ x = p := by
    simp only [Interval.point, Interval.mem_iff, Interval.inLower_some, Interval.inUpper_some]
    grind [Bound.IsBelow, Bound.IsAbove]
  rw [ofPoints, mem_ofIntervals]
  simp [point]

end RealSet

/-- Given points that stand for numbers form the set of these numbers. -/
lemma Given.points_eq {vs : List Value} {qs : List Rat} (stand : vs.map Value.toRat = qs.map .ok) :
    Given.points vs = .ok (.ofPoints qs) := by
  have read : ∀ v q, v.toRat = .ok q → Given.interval (.point v) = .ok (.point q) := by
    intro v q h
    simp only [Given.interval, IntervalRecord.point, IntervalRecord.icc, IntervalRecord.toInterval,
      Value.toEnd_of_toRat h]
    rfl
  rw [Given.points, Value.mapM_of_toRat read stand]
  rfl

namespace Cover
variable {eps : Rat} {k n : Nat} {p : Rat}

/-- The term for a point holds the point at its left end. -/
lemma mem_pointTerm (positive : 0 < eps) (n : Nat) (p : Rat) :
    p ∈ (pointTerm eps n p).toInterval := by
  have width : 0 < eps / (Nat.pow 2 (n + 1) : Nat) :=
    div_pos positive (Nat.cast_pos.2 (Nat.two_pow_pos _))
  exact HalfOpen.mem_toInterval.2 ⟨le_rfl, lt_add_of_pos_right p width⟩

/-- The length of a term does not depend on its point. -/
lemma length_pointTerm (eps : Rat) (n : Nat) (p : Rat) :
    (pointTerm eps n p).length = .ofPositivePart (eps / 2 ^ (n + 1)) := by
  rw [HalfOpen.length, pointTerm, add_sub_cancel_left]
  norm_cast

/-- The first `k` halvings of an excess together are not negative. -/
lemma halvings_nonneg (nonneg : 0 ≤ eps) (k : Nat) : 0 ≤ eps * (1 - 1 / 2 ^ k) := by
  have part : (1 : Rat) / 2 ^ k ≤ 1 := (div_le_one (by positivity)).2 (one_le_pow₀ one_le_two)
  exact mul_nonneg nonneg (sub_nonneg.2 part)

/-- The first `k` halvings do not come to the whole excess. -/
lemma halvings_lt (positive : 0 < eps) (k : Nat) : eps * (1 - 1 / 2 ^ k) < eps := by
  have part : (0 : Rat) < 1 / 2 ^ k := by positivity
  exact mul_lt_of_lt_one_right positive (sub_lt_self 1 part)

/-- The next halving of an excess is half of what is left. -/
lemma halvings_succ (eps : Rat) (k : Nat) :
    eps * (1 - 1 / 2 ^ k) + eps / 2 ^ (k + 1) = eps * (1 - 1 / 2 ^ (k + 1)) := by
  rw [pow_succ]
  field_simp
  ring

/-- The first `k` terms take up all of the excess but its last halving. -/
theorem sum_length_pointTerm (nonneg : 0 ≤ eps) (p : Nat → Rat) (k : Nat) :
    ENNRat.sum ((List.range k).map fun n => (pointTerm eps n (p n)).length) =
      .ofPositivePart (eps * (1 - 1 / 2 ^ k)) := by
  induction k with
  | zero => simp
  | succ k ih =>
    have next : 0 ≤ eps / 2 ^ (k + 1) := by positivity
    rw [List.range_succ, List.map_append, ENNRat.sum_append, ih, List.map_singleton,
      ENNRat.sum_cons, ENNRat.sum_nil, add_zero, length_pointTerm,
      ← ENNRat.ofPositivePart_add (halvings_nonneg nonneg k) next, halvings_succ]

/-- The sums of the first halvings come as close to the whole excess as one likes. -/
lemma isLUB_halvings (positive : 0 < eps) :
    IsLUB {m | ∃ k : Nat, .ofPositivePart (eps * (1 - 1 / 2 ^ (k + 1))) = m}
      (ENNRat.ofPositivePart eps) := by
  have value (k : Nat) := ENNRat.ofPositivePart_of_nonneg (halvings_nonneg positive.le k)
  rw [ENNRat.ofPositivePart_of_nonneg positive.le]
  constructor
  · rintro m ⟨k, rfl⟩
    rw [value, ENNRat.finite_le_finite]
    exact (halvings_lt positive (k + 1)).le
  · intro e above
    cases e with
    | infinite => exact ENNRat.le_infinite _
    | finite v nonneg =>
      rw [ENNRat.finite_le_finite]
      by_contra below
      -- a late enough term leaves less of the excess than what is missing
      have room : 0 < (eps - v) / eps := div_pos (sub_pos.2 (not_le.1 below)) positive
      obtain ⟨k, small⟩ := exists_pow_lt_of_lt_one room (by norm_num : (1 / 2 : Rat) < 1)
      have bound := above ⟨k, rfl⟩
      rw [value, ENNRat.finite_le_finite] at bound
      have left : (1 : Rat) / 2 ^ (k + 1) ≤ (1 / 2) ^ k := by
        rw [one_div_pow]
        exact one_div_le_one_div_of_le (by positivity) (pow_le_pow_right₀ one_le_two k.le_succ)
      have missing := (lt_div_iff₀ positive).1 (left.trans_lt small)
      linarith

/-- The cover of an endless sequence declares the whole excess and has a term for each entry. -/
lemma ofPoints_endless (nonneg : 0 ≤ eps) (entry : Nat → Except Error Value) :
    ∃ tail, ofPoints (.endless entry) eps = .ok ⟨[], some tail⟩ ∧ tail.total = .finite eps nonneg ∧
      ∀ n v q, entry n = .ok v → v.toRat = .ok q →
        tail.term n = .ok (pointTerm eps n q).toInterval := by
  have excess := ENNRat.ofRat_of_nonneg nonneg
  simp only [ofPoints, excess, bind, Except.bind]
  refine ⟨_, rfl, rfl, fun n v q given stands => ?_⟩
  simp only [given, Value.real_of_toRat stands]
  rfl

section
variable {c : Cover} {tail : Tail} {q : Nat → Rat}

/-- A cover that only has a tail for points has the terms of the points at their indices. -/
lemma term_of_pointTail (listed : c.terms = []) (endless : c.tail = some tail)
    (made : ∀ n, tail.term n = .ok (pointTerm eps n (q n)).toInterval) (n : Nat) :
    c.term n = .ok (pointTerm eps n (q n)) := by
  have found := term_of_tail endless (made n)
  rwa [listed, List.length_nil, Nat.zero_add] at found

/-- Its first terms are those of the first points. -/
lemma take_of_pointTail (listed : c.terms = []) (endless : c.tail = some tail)
    (made : ∀ n, tail.term n = .ok (pointTerm eps n (q n)).toInterval) (k : Nat) :
    c.take k = .ok ((List.range k).map fun n => pointTerm eps n (q n)) := by
  rw [take_of_endless endless made, listed, List.take_nil, List.nil_append, List.length_nil,
    Nat.sub_zero]

/-- The lengths and partial sums of terms for points do not depend on the points. -/
lemma sums_of_pointTerms (nonneg : 0 ≤ eps) {k : Nat}
    (taken : c.take k = .ok ((List.range k).map fun n => pointTerm eps n (q n))) :
    (∃ lens, c.lengths k = .ok lens ∧ lens.length = k ∧
        ENNRat.sum lens = .ofPositivePart (eps * (1 - 1 / 2 ^ k))) ∧
      c.partialSums (some k) =
        .ok ((List.range k).map fun j => .ofPositivePart (eps * (1 - 1 / 2 ^ (j + 1)))) := by
  refine ⟨⟨(List.range k).map fun n => (pointTerm eps n (q n)).length,
    ?_, by simp, sum_length_pointTerm nonneg q k⟩, ?_⟩
  · rw [lengths, taken]
    exact congrArg Except.ok (List.map_map ..)
  · rw [partialSums_eq taken, List.length_map, List.length_range]
    refine congrArg Except.ok (List.map_congr_left fun j hj => ?_)
    rw [List.map_map, ← List.map_take, List.take_range,
      min_eq_left (Nat.succ_le_of_lt (List.mem_range.1 hj))]
    exact sum_length_pointTerm nonneg q (j + 1)

/-- When the partial sums are those of halvings, they are below the excess, and it is their least
upper bound. -/
lemma isLUB_partialSums (positive : 0 < eps) (sums : ∀ k, c.partialSums (some k) =
      .ok ((List.range k).map fun j => .ofPositivePart (eps * (1 - 1 / 2 ^ (j + 1))))) :
    IsLUB {m | ∃ k given, c.partialSums (some k) = .ok given ∧ m ∈ given}
      (ENNRat.ofPositivePart eps) := by
  have all : {m | ∃ k given, c.partialSums (some k) = .ok given ∧ m ∈ given} =
      {m | ∃ k : Nat, .ofPositivePart (eps * (1 - 1 / 2 ^ (k + 1))) = m} := by
    ext m
    constructor
    · rintro ⟨k, given, read, mem⟩
      obtain rfl := Except.ok.inj ((sums k).symm.trans read)
      obtain ⟨j, -, value⟩ := List.mem_map.1 mem
      exact ⟨j, value⟩
    · rintro ⟨j, value⟩
      exact ⟨j + 1, _, sums (j + 1), List.mem_map.2 ⟨j, List.self_mem_range_succ, value⟩⟩
  rw [all]
  exact isLUB_halvings positive

end

section
variable {vs : List Value} {qs : List Rat}

/-- The cover of listed points is finite and has one term for each of them. -/
lemma ofPoints_listed (eps : Rat) (stand : vs.map Value.toRat = qs.map .ok) :
    ofPoints (.listed (vs.map .ok)) eps = .ok ⟨qs.mapIdx (pointTerm eps), none⟩ := by
  have read : vs.mapM (Value.real "point") = .ok (qs.map id) :=
    Value.mapM_of_toRat (fun v q h => Value.real_of_toRat h "point") stand
  have entries : (vs.map .ok).mapM (· >>= Value.real "point") = vs.mapM (Value.real "point") :=
    List.mapM_map
  rw [ofPoints, entries, read, List.map_id]
  rfl

/-- The total of the cover of listed points depends on their number only. -/
lemma total_mapIdx_pointTerm (nonneg : 0 ≤ eps) (qs : List Rat) :
    total ⟨qs.mapIdx (pointTerm eps), none⟩ = .ofPositivePart (eps * (1 - 1 / 2 ^ qs.length)) := by
  have lengths : (qs.mapIdx (pointTerm eps)).map HalfOpen.length =
      (List.range qs.length).map fun n => (pointTerm eps n (qs.getD n 0)).length := by
    apply List.ext_getElem
    · simp
    · intro i _ _
      simp [length_pointTerm]
  rw [total_of_finite rfl, lengths, sum_length_pointTerm nonneg]

/-- Every listed point lies in its term, however often it is repeated. -/
lemma covers_mapIdx_pointTerm (positive : 0 < eps) (qs : List Rat) (count : Option Nat) :
    covers ⟨qs.mapIdx (pointTerm eps), none⟩ (.ofPoints qs) count = .ok true := by
  have included : RealSet.ofPoints qs ⊆ unionOf (qs.mapIdx (pointTerm eps)) := by
    intro x hx
    obtain ⟨i, inside, rfl⟩ := List.mem_iff_getElem.1 (RealSet.mem_ofPoints.1 hx)
    rw [unionOf, RealSet.mem_ofIntervals]
    refine ⟨_, List.mem_map_of_mem (List.mem_mapIdx.2 ⟨i, inside, rfl⟩), ?_⟩
    exact mem_pointTerm positive i qs[i]
  exact congrArg Except.ok (RealSet.isSubset_iff.2 included)

end

/-- Covers of points take up the excess by halves, whatever the points are. -/
theorem ofPoints_geometric {eps : Value} {e : Rat} (excess : eps.positive "eps" = .ok e) :
    (∀ (points : Nat → Value) (q : Nat → Rat), (∀ n, (points n).toRat = .ok (q n)) →
      ∃ c, Given.pointCover (.endless fun n => .ok (points n)) eps = .ok c ∧
        (∀ n, ∃ t, c.term n = .ok t ∧ q n ∈ t.toInterval) ∧
        (∀ k, ∃ lens, c.lengths k = .ok lens ∧ lens.length = k ∧
          (ENNRat.sum lens).toRat? = some (e * (1 - 1 / 2 ^ k))) ∧
        c.total.toRat? = some e ∧
        (∀ k, ∃ sums, c.partialSums (some k) = .ok sums ∧ sums.length = k ∧
          ∀ m ∈ sums, m < c.total) ∧
        IsLUB {m | ∃ k sums, c.partialSums (some k) = .ok sums ∧ m ∈ sums} c.total) ∧
    ∀ (vs : List Value) (qs : List Rat), vs.map Value.toRat = qs.map .ok →
      ∃ c, Given.pointCover (.listed (vs.map .ok)) eps = .ok c ∧ c.isFinite = true ∧
        c.total.toRat? = some (e * (1 - 1 / 2 ^ vs.length)) ∧
        Given.points vs = .ok (.ofPoints qs) ∧
        ∀ count, c.covers (.ofPoints qs) count = .ok true := by
  have positive := (Value.positive_eq_ok_iff.1 excess).2
  have cover (points : Sequence (Except Error Value)) :
      Given.pointCover points eps = ofPoints points e := by
    rw [Given.pointCover, excess]
    rfl
  constructor
  · intro points q stand
    obtain ⟨tail, built, declared, terms⟩ := ofPoints_endless positive.le fun n => .ok (points n)
    have made : ∀ n, tail.term n = .ok (pointTerm e n (q n)).toInterval :=
      fun n => terms n _ (q n) rfl (stand n)
    obtain ⟨c, listed, endless, built⟩ : ∃ c : Cover, c.terms = [] ∧ c.tail = some tail ∧
      Given.pointCover (.endless fun n => .ok (points n)) eps = .ok c :=
        ⟨_, rfl, rfl, (cover _).trans built⟩
    have taken := take_of_pointTail listed endless made
    have total : c.total = .ofPositivePart e := by
      rw [Cover.total, withTail, listed, endless,
        ENNRat.ofPositivePart_of_nonneg positive.le, ← declared]
      exact zero_add _
    refine ⟨c, built,
      fun n => ⟨_, term_of_pointTail listed endless made n, mem_pointTerm positive n (q n)⟩,
      fun k => ?_, ?_, fun k => ?_, ?_⟩
    · obtain ⟨⟨lens, read, count, sum⟩, -⟩ := sums_of_pointTerms positive.le (taken k)
      exact ⟨lens, read, count, sum ▸ ENNRat.toRat?_ofPositivePart (halvings_nonneg positive.le k)⟩
    · rw [total, ENNRat.toRat?_ofPositivePart positive.le]
    · refine ⟨_, (sums_of_pointTerms positive.le (taken k)).2, by simp, fun m mem => ?_⟩
      obtain ⟨j, -, rfl⟩ := List.mem_map.1 mem
      rw [total, ENNRat.ofPositivePart_of_nonneg (halvings_nonneg positive.le (j + 1)),
        ENNRat.ofPositivePart_of_nonneg positive.le, ENNRat.finite_lt_finite]
      exact halvings_lt positive (j + 1)
    · rw [total]
      exact isLUB_partialSums positive fun k => (sums_of_pointTerms positive.le (taken k)).2
  · intro vs qs stand
    refine ⟨_, (cover _).trans (ofPoints_listed e stand), rfl, ?_, Given.points_eq stand,
      covers_mapIdx_pointTerm positive qs⟩
    have count : vs.length = qs.length := by simpa using congrArg List.length stand
    rw [total_mapIdx_pointTerm positive.le, count,
      ENNRat.toRat?_ofPositivePart (halvings_nonneg positive.le _)]

/-- Unit fractions without an end, and three points of which two are the same. -/
theorem ofPoints_geometric_repeated :
    let eps : Value := .text "1/3"
    let points : Nat → Value := fun n => .rational (1 / (n + 1))
    let vs : List Value := [.int 1, .text "1/2", .int 1]
    eps.positive "eps" = .ok (1 / 3) ∧ (∀ n, (points n).toRat = .ok (1 / (n + 1))) ∧
      vs.map Value.toRat = [1, 1 / 2, 1].map .ok ∧
      (∃ c, Given.pointCover (.endless fun n => .ok (points n)) eps = .ok c ∧
        c.total.toRat? = some (1 / 3) ∧
        ∀ n : Nat, ∃ t, c.term n = .ok t ∧ (1 / (n + 1) : Rat) ∈ t.toInterval) ∧
      ∃ c, Given.pointCover (.listed (vs.map .ok)) eps = .ok c ∧
        c.total.toRat? = some (1 / 3 * (1 - 1 / 2 ^ 3)) ∧
        ∀ count, c.covers (.ofPoints [1, 1 / 2, 1]) count = .ok true := by
  intro eps points vs
  have third : Rational.ofText? "1/3" = some (1 / 3) := by decide +kernel
  have half : Rational.ofText? "1/2" = some (1 / 2) := by decide +kernel
  have excess : eps.positive "eps" = .ok (1 / 3) := by
    refine Value.positive_eq_ok_iff.2 ⟨?_, by norm_num⟩
    simp only [eps, Value.toRat, third]
  have stand : vs.map Value.toRat = [1, 1 / 2, 1].map .ok := by simp [vs, Value.toRat, half]
  obtain ⟨endless, listed⟩ := ofPoints_geometric excess
  obtain ⟨c, built, members, -, total, -⟩ := endless points (fun n => 1 / (n + 1)) fun n => rfl
  obtain ⟨d, builtListed, -, totalListed, -, covers⟩ := listed vs _ stand
  exact ⟨excess, fun n => rfl, stand, ⟨c, built, total, members⟩, d, builtListed,
    totalListed, covers⟩

end Cover
end LineMeasure
