import LineMeasure.Proofs.OuterMeasure.Value

/-!
# The length of a set

The length looks at the pieces of the normal form only. A set that is `[a, b)`, whatever intervals
it was built from, has that one piece, or none when the ends are equal, so that its length is
`b - a` (`length_ofIntervals_toInterval`); and a set of finite length is `[a, b)` for some ends
(`exists_isIco`). So the length is the infimum of `b - a` over all ways to write the set as
`[a, b)`, and the outer measure extends it: it is the same where the length is finite.
-/

namespace LineMeasure

namespace RealSet
variable {s : RealSet} {c : Interval} {a b : Rat}

/-- The set has exactly the members of `[a, b)`, and the ends are in order. -/
structure IsIco (s : RealSet) (a b : Rat) : Prop where
  ordered : a ≤ b
  members : ∀ x, x ∈ s ↔ a ≤ x ∧ x < b

/-- A set that has the members of `[a, b)` is built from this interval. -/
lemma IsIco.eq_ofIntervals (h : s.IsIco a b) : s = .ofIntervals [HalfOpen.toInterval ⟨a, b⟩] := by
  ext x
  rw [h.members, mem_ofIntervals_singleton, HalfOpen.mem_toInterval]

/-- One interval with members is in normal form. -/
lemma components_of_nonempty (nonempty : c.isEmpty = false) :
    (ofIntervals [c]).components = [c] := by
  have normal : Normal [c] := by
    constructor
    · intro d hd
      rwa [List.mem_singleton.1 hd]
    · exact List.pairwise_singleton _ _
  exact normal.normalize_eq

/-- An interval without members leaves no piece. -/
lemma components_of_isEmpty (empty : c.isEmpty = true) : (ofIntervals [c]).components = [] := by
  have nothing : (ofIntervals [c]).isEmpty = true := by
    refine isEmpty_iff.2 fun x hx => ?_
    exact Interval.not_mem_of_isEmpty empty x (mem_ofIntervals_singleton.1 hx)
  exact List.isEmpty_iff.1 nothing

end RealSet

open RealSet

/-- The length of `[a, b)` as a set is its length as an interval. -/
lemma length_ofIntervals_toInterval (t : HalfOpen) :
    length (.ofIntervals [t.toInterval]) = t.length := by
  cases h : t.toInterval.isEmpty with
  | true =>
    have behind : ¬ (t.left ≤ t.left ∧ t.left < t.right) :=
      HalfOpen.mem_toInterval.not.1 (Interval.not_mem_of_isEmpty h t.left)
    have reversed : t.right ≤ t.left := not_lt.1 fun lt => behind ⟨le_rfl, lt⟩
    rw [length, components_of_isEmpty h, HalfOpen.length,
      ENNRat.ofPositivePart_of_nonpos (sub_nonpos.2 reversed)]
  | false =>
    rw [length, components_of_nonempty h]
    rfl

variable {s : RealSet}

/-- A set has infinite length, or is `[a, b)` for some ends. -/
lemma exists_isIco (s : RealSet) : length s = .infinite ∨ ∃ a b, s.IsIco a b := by
  match pieces : s.components with
  | [] =>
    have nothing : s.isEmpty = true := List.isEmpty_iff.2 pieces
    refine .inr ⟨0, 0, le_rfl, fun x => ?_⟩
    exact iff_of_false (RealSet.isEmpty_iff.1 nothing x) fun h => absurd h.2 (not_lt.2 h.1)
  | [c] =>
    cases form : c.halfOpen? with
    | none =>
      left
      rw [length, pieces]
      simp only [termLength, form]
    | some t =>
      obtain rfl : c = t.toInterval := Interval.halfOpen?_eq_some_iff.1 form
      have nonempty : t.toInterval.isEmpty = false :=
        s.normal.nonempty _ (pieces ▸ List.mem_singleton_self _)
      have ordered : t.left ≤ t.right := Interval.le_of_nonempty nonempty
      refine .inr ⟨t.left, t.right, ordered, fun x => ?_⟩
      rw [RealSet.mem_iff, pieces]
      simp only [List.mem_singleton, exists_eq_left, HalfOpen.mem_toInterval]
  | _ :: _ :: _ =>
    left
    rw [length, pieces]

/-- The length of a set that is `[a, b)`, and its outer measure, is the distance of the ends. -/
lemma length_of_isIco {a b : Rat} (h : s.IsIco a b) :
    length s = .ofPositivePart (b - a) ∧ ∀ cfg, outerMeasure cfg s = .ok (length s) := by
  have value : length s = .ofPositivePart (b - a) := by
    rw [h.eq_ofIntervals, length_ofIntervals_toInterval, HalfOpen.length]
  refine ⟨value, fun cfg => ?_⟩
  rw [value, outerMeasure_eq_extent, h.eq_ofIntervals, extent_ofIntervals_singleton,
    Cover.extent_toInterval]
  rfl

/-- The outer measure is at most the length. -/
lemma extent_le_length (s : RealSet) : s.extent ≤ length s := by
  rcases exists_isIco s with infinite | ⟨a, b, h⟩
  · rw [infinite]
    exact ENNRat.le_infinite _
  · have same := (length_of_isIco h).2 .default
    rw [outerMeasure_eq_extent] at same
    exact (Except.ok.inj same).le

/-- The length is the infimum of `b - a` over all ways to write the set as `[a, b)`. -/
theorem length_isInfimum (s : RealSet) :
    (∀ a b, s.IsIco a b → (length s).toRat? = some (b - a) ∧
      ∀ cfg, outerMeasure cfg s = .ok (length s)) ∧
      ((∀ a b, ¬ s.IsIco a b) → length s = .infinite) ∧
      IsGLB {e | ∃ a b, s.IsIco a b ∧ .ofPositivePart (b - a) = e} (length s) ∧
      ∀ cfg, ∃ m, outerMeasure cfg s = .ok m ∧ m ≤ length s := by
  refine ⟨fun a b h => ?_, fun none_such => ?_, ⟨?_, fun e below => ?_⟩, fun cfg => ?_⟩
  · obtain ⟨value, measure⟩ := length_of_isIco h
    refine ⟨?_, measure⟩
    rw [value, ENNRat.toRat?_ofPositivePart (sub_nonneg.2 h.ordered)]
  · exact (exists_isIco s).resolve_right fun ⟨a, b, h⟩ => none_such a b h
  · rintro e ⟨a, b, h, rfl⟩
    exact (length_of_isIco h).1.le
  · rcases exists_isIco s with infinite | ⟨a, b, h⟩
    · rw [infinite]
      exact ENNRat.le_infinite e
    · exact below ⟨a, b, h, (length_of_isIco h).1.symm⟩
  · exact ⟨s.extent, outerMeasure_eq_extent cfg s, extent_le_length s⟩

/-- Three pieces that overlap or touch, in no order, are `[0, 3)`; two of them leave a gap. -/
theorem length_isInfimum_pieces :
    let s :=
      RealSet.ofIntervals
        [⟨some ⟨1, true⟩, some ⟨2, true⟩⟩, ⟨some ⟨2, false⟩, some ⟨3, false⟩⟩, .ico 0 1]
    let t := RealSet.ofIntervals [⟨some ⟨2, false⟩, some ⟨3, false⟩⟩, .ico 0 1]
    s.IsIco 0 3 ∧ (length s).toRat? = some (3 - 0) ∧ outerMeasure .default s = .ok (length s) ∧
      (∀ a b, ¬ t.IsIco a b) ∧ length t = .infinite := by
  intro s t
  have interval : s.IsIco 0 3 := by
    refine ⟨by decide, fun x => ?_⟩
    simp only [s, mem_ofIntervals, List.mem_cons, List.not_mem_nil, or_false, exists_eq_or_imp,
      exists_eq_left, Interval.mem_iff, Interval.ico, Interval.inLower_some, Interval.inUpper_some]
    grind [Bound.IsBelow, Bound.IsAbove]
  have apart : ∀ a b, ¬ t.IsIco a b := by
    intro a b h
    have low := (h.members 0).1 (mem_ofIntervals.2 (by decide +kernel))
    have high := (h.members (5 / 2)).1 (mem_ofIntervals.2 (by decide +kernel))
    have between := (h.members (3 / 2)).2 ⟨by linarith [low.1], by linarith [high.2]⟩
    exact absurd (mem_ofIntervals.1 between) (by decide +kernel)
  obtain ⟨value, -, -⟩ := length_isInfimum s
  obtain ⟨-, infinite, -⟩ := length_isInfimum t
  exact ⟨interval, (value 0 3 interval).1, (value 0 3 interval).2 .default, apart, infinite apart⟩

end LineMeasure
