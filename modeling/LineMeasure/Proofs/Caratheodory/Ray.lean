import LineMeasure.Given.Measure
import LineMeasure.Proofs.OuterMeasure.Value

/-!
# Every ray is measurable

The lengths that are found by the position of an interval relative to a ray, also of a reversed one,
are those of the two intervals that the ray cuts it into (`rayLengths_eq`), and these are the parts
inside and outside the ray. So the outer measure agrees with them on every half-open interval, and
every ray passes every list of half-open tests (`rayMeasurableOn_of_halfOpen`). What else is among
the tests is named by the error at its first place, since the check gets past all tests before it
(`rayMeasurableOn_append`).
-/

namespace LineMeasure.Caratheodory
open LineMeasure.Interval

/-- The lengths by cases are those of the interval up to the point of the ray and from it on. -/
theorem rayLengths_eq (c a b : Rat) :
    rayLengths c a b = (intervalLength a (min b c), intervalLength (max a c) b) := by
  have none_left {p q : Rat} (le : q ≤ p) : intervalLength p q = 0 := by
    rw [intervalLength, ENNRat.ofPositivePart_of_nonpos (sub_nonpos.2 le)]
  unfold rayLengths rayCase
  by_cases empty : b ≤ a
  · rw [if_pos empty, none_left ((min_le_left b c).trans empty),
      none_left (empty.trans (le_max_left a c))]
  by_cases below : b ≤ c
  · rw [if_neg empty, if_pos below, min_eq_left below, none_left (below.trans (le_max_right a c))]
  by_cases above : c ≤ a
  · rw [if_neg empty, if_neg below, if_pos above, max_eq_left above,
      none_left ((min_le_right b c).trans above)]
  · rw [if_neg empty, if_neg below, if_neg above, min_eq_right (not_le.1 below).le,
      max_eq_right (not_le.1 above).le]

section
variable (cfg : Config) (c : Rat) (t : HalfOpen)

/-- The part of `[a, b)` inside a ray. -/
lemma ofIntervals_inter_ray :
    RealSet.ofIntervals [t.toInterval] ∩ .ofIntervals [.rayBelow c] =
      .ofIntervals [HalfOpen.toInterval ⟨t.left, min t.right c⟩] := by
  ext x
  rw [RealSet.mem_inter]
  simp only [RealSet.mem_ofIntervals_singleton, HalfOpen.mem_toInterval, mem_rayBelow,
    lt_min_iff, and_assoc]

/-- The part of `[a, b)` outside a ray. -/
lemma ofIntervals_sdiff_ray :
    RealSet.ofIntervals [t.toInterval] \ .ofIntervals [.rayBelow c] =
      .ofIntervals [HalfOpen.toInterval ⟨max t.left c, t.right⟩] := by
  ext x
  rw [RealSet.mem_sdiff]
  simp only [RealSet.mem_ofIntervals_singleton, HalfOpen.mem_toInterval, mem_rayBelow,
    max_le_iff, not_lt]
  exact and_right_comm

/-- The outer measure of a half-open interval is its length. -/
lemma outerMeasure_halfOpen : outerMeasure cfg (.ofIntervals [t.toInterval]) = .ok t.length := by
  rw [outerMeasure_eq_extent, RealSet.extent_ofIntervals_singleton, Cover.extent_toInterval]

/-- The outer measures of the two parts of a half-open interval are the lengths found by cases. -/
theorem outerMeasure_rayParts :
    outerMeasure cfg (.ofIntervals [t.toInterval] ∩ .ofIntervals [.rayBelow c]) =
        .ok (rayLengths c t.left t.right).1 ∧
      outerMeasure cfg (.ofIntervals [t.toInterval] \ .ofIntervals [.rayBelow c]) =
        .ok (rayLengths c t.left t.right).2 := by
  rw [ofIntervals_inter_ray, ofIntervals_sdiff_ray, outerMeasure_halfOpen, outerMeasure_halfOpen,
    rayLengths_eq]
  exact ⟨rfl, rfl⟩

/-- The lengths of the two parts add up to that of the whole interval. -/
theorem rayLengths_add :
    (rayLengths c t.left t.right).1 + (rayLengths c t.left t.right).2 = t.length := by
  have whole :=
    RealSet.extent_inter_add_sdiff (.ofIntervals [t.toInterval]) (.ofIntervals [.rayBelow c])
  rw [ofIntervals_inter_ray, ofIntervals_sdiff_ray] at whole
  simp only [RealSet.extent_ofIntervals_singleton, Cover.extent_toInterval] at whole
  rw [rayLengths_eq]
  exact whole

/-- A ray splits every half-open interval. -/
lemma raySplits_outerMeasure : raySplits (outerMeasure cfg) c t = .ok true := by
  obtain ⟨inside, outside⟩ := outerMeasure_rayParts cfg c t
  simp [raySplits, rayLengths_add, inside, outside, bind, Except.bind, pure, Except.pure]

/-- The check gets past half-open tests to those behind them. -/
lemma rayMeasurableOn_append {before : List Interval} (halfOpen : ∀ i ∈ before, i.isHalfOpen = true)
    (rest : List Interval) :
    rayMeasurableOn (outerMeasure cfg) c (before ++ rest) =
      rayMeasurableOn (outerMeasure cfg) c rest := by
  induction before with
  | nil => rfl
  | cons i before ih =>
    obtain ⟨t, form⟩ := Option.isSome_iff_exists.1 (halfOpen i List.mem_cons_self)
    rw [List.cons_append, rayMeasurableOn, form]
    simp only [bind, Except.bind, raySplits_outerMeasure, if_true]
    exact ih fun j hj => halfOpen j (List.mem_cons_of_mem _ hj)

/-- Every ray is measurable on half-open tests. -/
theorem rayMeasurableOn_of_halfOpen {tests : List Interval}
    (halfOpen : ∀ i ∈ tests, i.isHalfOpen = true) :
    rayMeasurableOn (outerMeasure cfg) c tests = .ok true := by
  have passed := rayMeasurableOn_append cfg c halfOpen []
  rwa [List.append_nil] at passed

/-- The check ends with an error at the first test that is not half-open. -/
lemma rayMeasurableOn_of_first {before after : List Interval} {found : Interval}
    (halfOpen : ∀ i ∈ before, i.isHalfOpen = true) (other : found.isHalfOpen = false) :
    rayMeasurableOn (outerMeasure cfg) c (before ++ found :: after) =
      .error (.testInterval found) := by
  have form : found.halfOpen? = none :=
    Option.isNone_iff_eq_none.1 (Option.isSome_eq_false_iff.1 other)
  rw [rayMeasurableOn_append cfg c halfOpen, rayMeasurableOn, form]

/-- Every ray is measurable on the grid around its point. -/
theorem isRayMeasurable_outerMeasure : isRayMeasurable (outerMeasure cfg) cfg c = .ok true := by
  apply rayMeasurableOn_of_halfOpen
  intro i hi
  obtain ⟨a, -, hi⟩ := List.mem_flatMap.1 hi
  obtain ⟨b, -, rfl⟩ := List.mem_map.1 hi
  rfl

end

/-- Rays split half-open intervals additively, and any other test set is named by an error. -/
theorem rays_split (cfg : Config) (c : Rat) :
    (∀ a b, ∃ inside outside,
      Given.raySplit (.rational c) (.rational a) (.rational b) =
        .ok (rayCase c a b, inside, outside) ∧
        outerMeasure cfg (.ofIntervals [.ico a b] ∩ .ofIntervals [.rayBelow c]) = .ok inside ∧
        outerMeasure cfg (.ofIntervals [.ico a b] \ .ofIntervals [.rayBelow c]) = .ok outside ∧
        inside + outside = intervalLength a b) ∧
    ∀ tests : List Interval,
      tests.all isHalfOpen = true ∧
          Given.isRayMeasurable (outerMeasure cfg) cfg (.rational c) (some tests) = .ok true ∨
        ∃ before found after, tests = before ++ found :: after ∧
          before.all isHalfOpen = true ∧ found.isHalfOpen = false ∧
          Given.isRayMeasurable (outerMeasure cfg) cfg (.rational c) (some tests) =
            .error (.testInterval found) ∧
          (Error.testInterval found).message =
            "test interval must be half-open [a, b), got " ++ found.text := by
  constructor
  · intro a b
    obtain ⟨inside, outside⟩ := outerMeasure_rayParts cfg c ⟨a, b⟩
    exact ⟨_, _, rfl, inside, outside, rayLengths_add c ⟨a, b⟩⟩
  · intro tests
    have run : Given.isRayMeasurable (outerMeasure cfg) cfg (.rational c) (some tests) =
        rayMeasurableOn (outerMeasure cfg) c tests := rfl
    rw [run]
    cases first : tests.find? fun i => !i.isHalfOpen with
    | none =>
      have halfOpen : ∀ i ∈ tests, i.isHalfOpen = true := by simpa using first
      exact .inl ⟨List.all_eq_true.2 halfOpen, rayMeasurableOn_of_halfOpen cfg c halfOpen⟩
    | some found =>
      obtain ⟨other, before, after, rfl, passed⟩ := List.find?_eq_some_iff_append.1 first
      have halfOpen : ∀ i ∈ before, i.isHalfOpen = true := by simpa using passed
      rw [Bool.not_eq_true'] at other
      exact .inr ⟨before, found, after, rfl, List.all_eq_true.2 halfOpen, other,
        rayMeasurableOn_of_first cfg c halfOpen other, rfl⟩

end LineMeasure.Caratheodory
