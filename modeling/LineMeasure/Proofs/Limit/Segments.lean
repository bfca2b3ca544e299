import LineMeasure.Given.Measure
import LineMeasure.Proofs.Limit.Affine
import LineMeasure.Proofs.Limit.Superlevel
import Mathlib.Algebra.Order.Field.Basic
import Mathlib.Tactic.FieldSimp

/-!
# The search of the segments is exact

For a function that is affine on every segment, the search from right to left ends at the largest
point at which the function is not negative (`le_lastNonnegative`, `lastNonnegative_mem`). On the
segment where the sign changes the function is not negative exactly up to the interpolated root
(`AffineOn.sign_change`), and between two negative ends it is negative. The divisor of the
interpolation is positive whenever it is used, for any function at all, so that the search on given
values, for which a divisor that is zero is an error, finds the same point.
-/

namespace LineMeasure

namespace Limit

/-- The function is affine from `l` to `u`. -/
def AffineOn (f : Rat → Rat) (l u : Rat) : Prop :=
  ∃ a b, ∀ x, l ≤ x → x ≤ u → f x = a + b * x

/-- The points that cut an interval into segments: its two ends and the break points inside. -/
def cuts (breakpoints : List Rat) (low high : Rat) : Set Rat :=
  {p | p = low ∨ p = high ∨ p ∈ breakpoints ∧ low < p ∧ p < high}

/-- Two points of a set between which there is no other one. -/
structure Neighbours (points : Set Rat) (l u : Rat) : Prop where
  left : l ∈ points
  right : u ∈ points
  lt : l < u
  apart : ∀ p ∈ points, p ≤ l ∨ u ≤ p

/-- A number that is neither below all points of a list nor above all of them. -/
def Within (points : List Rat) (x : Rat) : Prop :=
  (∃ p ∈ points, p ≤ x) ∧ ∃ p ∈ points, x ≤ p

variable {f : Rat → Rat} {points rest : List Rat} {a b l u x r : Rat}

/-- The line through two values of an affine function meets zero where the function does. -/
lemma rootBetween_affine (slope : b ≠ 0) (ne : l ≠ u) :
    rootBetween l (a + b * l) u (a + b * u) = -a / b := by
  have width : l - u ≠ 0 := sub_ne_zero.2 ne
  have fall : a + b * l - (a + b * u) = b * (l - u) := by ring
  rw [rootBetween, fall]
  field_simp
  ring

/-- Between two negative values an affine function is negative. -/
lemma AffineOn.neg (affine : AffineOn f l u) (left : f l < 0) (right : f u < 0) (lx : l ≤ x)
    (xu : x ≤ u) :
    f x < 0 := by
  obtain ⟨a, b, h⟩ := affine
  rw [h l le_rfl (lx.trans xu)] at left
  rw [h u (lx.trans xu) le_rfl] at right
  rw [h x lx xu]
  rcases le_total 0 b with rising | falling
  · exact lt_of_le_of_lt (add_le_add le_rfl (mul_le_mul_of_nonneg_left xu rising)) right
  · exact lt_of_le_of_lt (add_le_add le_rfl (mul_le_mul_of_nonpos_left lx falling)) left

/-- Where an affine function becomes negative, it meets zero at the interpolated root, and it is not
negative exactly up to there. -/
lemma AffineOn.sign_change (affine : AffineOn f l u) (lt : l < u) (left : 0 ≤ f l)
    (right : f u < 0) :
    ∃ r, rootBetween l (f l) u (f u) = r ∧ l ≤ r ∧ r ≤ u ∧ f r = 0 ∧
      ∀ x, l ≤ x → x ≤ u → 0 ≤ f x → x ≤ r := by
  obtain ⟨a, b, h⟩ := affine
  have start := h l le_rfl lt.le
  have stop := h u lt.le le_rfl
  rw [start] at left
  rw [stop] at right
  have falling : b < 0 := by
    by_contra rising
    have more := mul_le_mul_of_nonneg_left lt.le (not_lt.1 rising)
    linarith
  -- the function meets zero at `-a / b`, and it is not negative exactly up to there
  have upTo (x : Rat) : 0 ≤ a + b * x ↔ x ≤ -a / b := by
    rw [le_div_iff_of_neg falling, mul_comm x b]
    constructor <;> intro <;> linarith
  have first : l ≤ -a / b := (upTo l).1 left
  have last : -a / b ≤ u := (not_le.1 (mt (upTo u).2 (not_le.2 right))).le
  refine ⟨-a / b, ?_, first, last, ?_, fun x lx xu nonneg => ?_⟩
  · rw [start, stop, rootBetween_affine falling.ne lt.ne]
  · rw [h _ first last, mul_div_cancel₀ _ falling.ne, add_neg_cancel]
  · rw [h x lx xu] at nonneg
    exact (upTo x).1 nonneg

/-- The first two of decreasing points are neighbours. -/
lemma neighbours_head (decreasing : (u :: l :: rest).Pairwise (· > ·)) :
    Neighbours {p | p ∈ u :: l :: rest} l u := by
  obtain ⟨first, decreasing⟩ := List.pairwise_cons.1 decreasing
  obtain ⟨second, -⟩ := List.pairwise_cons.1 decreasing
  refine ⟨by simp, by simp, first l List.mem_cons_self, ?_⟩
  simp only [Set.mem_ofPred_eq, List.forall_mem_cons]
  exact ⟨.inr le_rfl, .inl le_rfl, fun p hp => .inl (second p hp).le⟩

/-- Neighbours among the later of decreasing points are neighbours among all of them. -/
lemma Neighbours.cons {p : Rat} (h : Neighbours {q | q ∈ rest} l u) (first : ∀ q ∈ rest, p > q) :
    Neighbours {q | q ∈ p :: rest} l u := by
  refine ⟨List.mem_cons_of_mem p h.left, List.mem_cons_of_mem p h.right, h.lt, ?_⟩
  simp only [Set.mem_ofPred_eq, List.forall_mem_cons]
  exact ⟨.inr (first u h.right).le, h.apart⟩

/-- A function that is affine between neighbours is affine from each of decreasing points to the one
before it. -/
lemma isChain_affineOn (decreasing : points.Pairwise (· > ·))
    (affine : ∀ l u, Neighbours {p | p ∈ points} l u → AffineOn f l u) :
    points.IsChain fun u l => AffineOn f l u := by
  induction points with
  | nil => exact .nil
  | cons u rest ih =>
    obtain ⟨first, later⟩ := List.pairwise_cons.1 decreasing
    have tail := ih later fun p q h => affine p q (h.cons first)
    cases rest with
    | nil => exact .singleton u
    | cons l rest => exact .cons_cons (affine l u (neighbours_head decreasing)) tail

lemma within_head (u : Rat) (rest : List Rat) : Within (u :: rest) u :=
  ⟨⟨u, List.mem_cons_self, le_rfl⟩, u, List.mem_cons_self, le_rfl⟩

/-- No number within the points is above the first of decreasing ones. -/
lemma Within.le_head (within : Within (u :: rest) x) (decreasing : (u :: rest).Pairwise (· > ·)) :
    x ≤ u := by
  obtain ⟨-, p, hp, xp⟩ := within
  rcases List.mem_cons.1 hp with rfl | hp
  · exact xp
  · exact xp.trans (List.rel_of_pairwise_cons decreasing hp).le

/-- A number within decreasing points that is below the second one is within the later points. -/
lemma Within.tail (within : Within (u :: l :: rest) x)
    (decreasing : (u :: l :: rest).Pairwise (· > ·)) (xl : x < l) :
    Within (l :: rest) x := by
  obtain ⟨p, hp, px⟩ := within.1
  have lu : u > l := List.rel_of_pairwise_cons decreasing List.mem_cons_self
  have behind : p ≠ u := (px.trans_lt (xl.trans lu)).ne
  exact ⟨⟨p, (List.mem_cons.1 hp).resolve_left behind, px⟩, l, List.mem_cons_self, xl.le⟩

lemma Within.cons (within : Within rest x) (u : Rat) : Within (u :: rest) x := by
  obtain ⟨⟨p, hp, px⟩, q, hq, xq⟩ := within
  exact ⟨⟨p, List.mem_cons_of_mem u hp, px⟩, q, List.mem_cons_of_mem u hq, xq⟩

/-- The search ends at a point at which the function is not negative. -/
lemma lastNonnegative_mem (decreasing : points.Pairwise (· > ·))
    (affine : points.IsChain fun u l => AffineOn f l u)
    (found : lastNonnegative f points = some r) : Within points r ∧ 0 ≤ f r := by
  fun_induction lastNonnegative f points with
  | case1 u l rest nonneg =>
    cases found
    exact ⟨within_head _ _, nonneg⟩
  | case2 u l rest neg nonneg =>
    have lt := List.rel_of_pairwise_cons decreasing List.mem_cons_self
    obtain ⟨r, root, lr, ru, zero, -⟩ := affine.rel.sign_change lt nonneg (not_le.1 neg)
    rw [root] at found
    cases found
    exact ⟨⟨⟨l, by simp, lr⟩, u, by simp, ru⟩, zero.ge⟩
  | case3 u l rest _ _ ih =>
    obtain ⟨within, nonneg⟩ := ih decreasing.tail (List.isChain_cons_cons.1 affine).2 found
    exact ⟨within.cons u, nonneg⟩
  | case4 p nonneg =>
    cases found
    exact ⟨within_head _ _, nonneg⟩
  | case5 p _ => cases found
  | case6 => cases found

/-- The search finds a point when the function is not negative somewhere, and passes none by. -/
lemma le_lastNonnegative (decreasing : points.Pairwise (· > ·))
    (affine : points.IsChain fun u l => AffineOn f l u)
    (within : Within points x) (nonneg : 0 ≤ f x) :
    ∃ r, lastNonnegative f points = some r ∧ x ≤ r := by
  fun_induction lastNonnegative f points with
  | case1 u l rest _ => exact ⟨u, rfl, within.le_head decreasing⟩
  | case2 u l rest neg nonneg_left =>
    have lt := List.rel_of_pairwise_cons decreasing List.mem_cons_self
    obtain ⟨r, root, lr, -, -, upTo⟩ := affine.rel.sign_change lt nonneg_left (not_le.1 neg)
    refine ⟨_, rfl, ?_⟩
    rw [root]
    rcases le_total x l with before | inside
    · exact before.trans lr
    · exact upTo x inside (within.le_head decreasing) nonneg
  | case3 u l rest neg neg_left ih =>
    obtain ⟨segment, later⟩ := List.isChain_cons_cons.1 affine
    -- the function is negative on the whole segment, so that the number is in front of it
    have before : x < l := by
      by_contra inside
      have below :=
        segment.neg (not_le.1 neg_left) (not_le.1 neg) (not_lt.1 inside) (within.le_head decreasing)
      exact absurd nonneg (not_le.2 below)
    exact ih decreasing.tail later (within.tail decreasing before)
  | case4 p _ => exact ⟨p, rfl, within.le_head decreasing⟩
  | case5 p neg =>
    obtain ⟨q, hq, qx⟩ := within.1
    rw [List.mem_singleton.1 hq] at qx
    have same : x = p := le_antisymm (within.le_head decreasing) qx
    exact absurd (same ▸ nonneg) neg
  | case6 =>
    obtain ⟨⟨q, hq, -⟩, -⟩ := within
    cases hq

/-- The search ends at the largest of the numbers within the points at which the function is not
negative, and finds nothing exactly when the function is negative at all of them. -/
theorem lastNonnegative_exact (decreasing : points.Pairwise (· > ·))
    (affine : points.IsChain fun u l => AffineOn f l u) :
    (lastNonnegative f points = none ↔ ∀ x, Within points x → f x < 0) ∧
      ∀ r, lastNonnegative f points = some r → IsGreatest {x | Within points x ∧ 0 ≤ f x} r := by
  refine ⟨⟨fun nothing x within => ?_, fun negative => ?_⟩, fun r found => ⟨?_, ?_⟩⟩
  · by_contra nonneg
    obtain ⟨r, found, -⟩ := le_lastNonnegative decreasing affine within (not_lt.1 nonneg)
    rw [nothing] at found
    cases found
  · refine Option.eq_none_iff_forall_ne_some.2 fun r found => ?_
    obtain ⟨within, nonneg⟩ := lastNonnegative_mem decreasing affine found
    exact absurd nonneg (not_le.2 (negative r within))
  · exact lastNonnegative_mem decreasing affine found
  · rintro x ⟨within, nonneg⟩
    obtain ⟨s, again, xs⟩ := le_lastNonnegative decreasing affine within nonneg
    rw [found] at again
    cases again
    exact xs

end Limit

namespace Given
open Limit

variable {f : Rat → Rat}

/-- From a value that is not negative to a negative one the divisor of the root is not zero. -/
lemma crossing_rational {left leftValue right rightValue : Rat} (nonneg : 0 ≤ leftValue)
    (neg : rightValue < 0) :
    crossing left (.rational leftValue) right (.rational rightValue) =
      .ok (.rational (rootBetween left leftValue right rightValue)) := by
  have divisor : leftValue - rightValue ≠ 0 := (sub_pos.2 (neg.trans_le nonneg)).ne'
  simp only [crossing, Value.times_rational, Value.minus_rational,
    Value.dividedBy_rational divisor, bind, Except.bind, Value.plus_rational]
  rfl

/-- The search on exact values finds what the search of a function finds. -/
lemma lastNonnegative_rational (f : Rat → Rat) (points : List Rat) :
    lastNonnegative (points.map fun p => (p, .rational (f p))) =
      .ok ((Limit.lastNonnegative f points).map .rational) := by
  fun_induction Limit.lastNonnegative f points with
  | case1 right left rest nonneg =>
    simp [lastNonnegative, Value.isNonnegative_rational, nonneg, bind, Except.bind,
      pure, Except.pure]
  | case2 right left rest neg nonneg =>
    simp [lastNonnegative, Value.isNonnegative_rational, nonneg, neg,
      crossing_rational nonneg (not_le.1 neg), bind, Except.bind, pure, Except.pure]
  | case3 right left rest neg neg_left ih =>
    simp only [List.map_cons] at ih ⊢
    rw [← ih]
    simp [lastNonnegative, Value.isNonnegative_rational, neg_left, neg, bind, Except.bind]
  | case4 p nonneg =>
    simp [lastNonnegative, Value.isNonnegative_rational, nonneg, bind, Except.bind,
      pure, Except.pure]
  | case5 p neg =>
    simp [lastNonnegative, Value.isNonnegative_rational, neg, bind, Except.bind, pure, Except.pure]
  | case6 => rfl

/-- The search of the segments on exact values finds what the search for a function finds, and is
refused with it. -/
lemma superlevelSupremum_rational (f : Rat → Rat) (breakpoints : List Rat) (low high : Rat) :
    superlevelSupremum (fun x => .ok (.rational (f x))) breakpoints low high =
      (Limit.superlevelSupremum f breakpoints low high).map (Option.map .rational) := by
  rw [superlevelSupremum, Limit.superlevelSupremum]
  split
  · rfl
  · have values : (segmentEnds breakpoints low high).mapM (fun p => .ok (p, .rational (f p))) =
        (.ok ((segmentEnds breakpoints low high).map fun p => (p, .rational (f p))) :
          Except Error (List (Rat × Value))) :=
      mapM_eq_ok fun _ _ => rfl
    simp only [bind, Except.bind, pure, Except.pure, values]
    rw [← List.map_reverse, lastNonnegative_rational]
    rfl

end Given

namespace Limit

variable {breakpoints : List Rat} {low high : Rat} {f : Rat → Rat}

/-- The cuts of an interval are the ends of its segments. -/
lemma cuts_eq (breakpoints : List Rat) (low high : Rat) :
    cuts breakpoints low high = {p | p ∈ (segmentEnds breakpoints low high).reverse} := by
  ext p
  rw [Set.mem_ofPred_eq, List.mem_reverse, mem_segmentEnds]
  rfl

/-- The numbers of an interval are those within its cuts. -/
lemma within_segmentEnds {x : Rat} (le : low ≤ high) :
    Within (segmentEnds breakpoints low high).reverse x ↔ low ≤ x ∧ x ≤ high := by
  simp only [Within, List.mem_reverse, mem_segmentEnds]
  constructor
  · rintro ⟨⟨p, hp, px⟩, q, hq, xq⟩
    constructor
    · rcases hp with rfl | rfl | ⟨-, above, -⟩
      · exact px
      · exact le.trans px
      · exact above.le.trans px
    · rcases hq with rfl | rfl | ⟨-, -, below⟩
      · exact xq.trans le
      · exact xq
      · exact xq.trans below.le
  · rintro ⟨above, below⟩
    exact ⟨⟨low, .inl rfl, above⟩, high, .inr (.inl rfl), below⟩

/-- The search finds the largest point at which a piecewise affine function is not negative. -/
theorem superlevelSupremum_exact (f : Rat → Rat) (breakpoints : List Rat) (low high : Rat) :
    (low ≤ high → (∀ l u, Neighbours (cuts breakpoints low high) l u → AffineOn f l u) →
      ∃ found, superlevelSupremum f breakpoints low high = .ok found ∧
        Given.superlevelSupremum (fun x => .ok (.rational (f x))) breakpoints low high =
          .ok (found.map .rational) ∧
        (found = none ↔ ∀ x, low ≤ x → x ≤ high → f x < 0) ∧
        ∀ r, found = some r → IsGreatest {x | low ≤ x ∧ x ≤ high ∧ 0 ≤ f x} r) ∧
    (high < low →
      superlevelSupremum f breakpoints low high = .error (.order low high) ∧
        Given.superlevelSupremum (fun x => .ok (.rational (f x))) breakpoints low high =
          .error (.order low high)) := by
  rw [Given.superlevelSupremum_rational, superlevelSupremum]
  constructor
  · intro le affine
    rw [if_neg (not_lt.2 le)]
    refine ⟨_, rfl, rfl, ?_⟩
    rw [cuts_eq] at affine
    have decreasing : (segmentEnds breakpoints low high).reverse.Pairwise (· > ·) :=
      List.pairwise_reverse.2 (Rational.pairwise_increasing _)
    have exact := lastNonnegative_exact decreasing (isChain_affineOn decreasing affine)
    simpa only [within_segmentEnds le, and_imp, and_assoc] using exact
  · intro lt
    rw [if_pos lt]
    exact ⟨rfl, rfl⟩

/-- A function that rises to `1` at `2` and then falls: it is not negative from `1` to `3`, and the
search locates the second of these points. -/
theorem superlevelSupremum_exact_tent :
    let f : Rat → Rat := fun x => if x ≤ 2 then x - 1 else 3 - x
    (0 : Rat) ≤ 5 ∧ (∀ l u, Neighbours (cuts [7, 2, 2, -1] 0 5) l u → AffineOn f l u) ∧
      superlevelSupremum f [7, 2, 2, -1] 0 5 = .ok (some 3) ∧
      Given.superlevelSupremum (fun x => .ok (.rational (f x))) [7, 2, 2, -1] 0 5 =
        .ok (some (.rational 3)) ∧
      IsGreatest {x | 0 ≤ x ∧ x ≤ 5 ∧ 0 ≤ f x} 3 ∧
      (0 : Rat) < 5 ∧ superlevelSupremum f [7, 2, 2, -1] 5 0 = .error (.order 5 0) := by
  intro f
  have le : (0 : Rat) ≤ 5 := by decide
  have lt : (0 : Rat) < 5 := by decide
  -- `2` is a cut, so that no two neighbours lie on different sides of it
  have affine : ∀ l u, Neighbours (cuts [7, 2, 2, -1] 0 5) l u → AffineOn f l u := by
    intro l u h
    have cut : (2 : Rat) ∈ cuts [7, 2, 2, -1] 0 5 := .inr (.inr (by decide +kernel))
    rcases h.apart 2 cut with before | behind
    · refine ⟨3, -1, fun x lx _ => ?_⟩
      show (if x ≤ 2 then x - 1 else 3 - x) = 3 + -1 * x
      split <;> linarith
    · refine ⟨-1, 1, fun x _ xu => ?_⟩
      show (if x ≤ 2 then x - 1 else 3 - x) = -1 + 1 * x
      split <;> linarith
  obtain ⟨found, search, given, -, greatest⟩ :=
    (superlevelSupremum_exact f [7, 2, 2, -1] 0 5).1 le affine
  have ends : segmentEnds [7, 2, 2, -1] 0 5 = [0, 2, 5] := by
    simp +decide [segmentEnds, Rational.increasing, List.mergeSort,
      List.MergeSort.Internal.splitInTwo, List.filter]
  have last : lastNonnegative f [5, 2, 0] = some 3 := by decide +kernel
  have located : superlevelSupremum f [7, 2, 2, -1] 0 5 = .ok (some 3) := by
    rw [superlevelSupremum, if_neg (not_lt.2 le), ends]
    exact congrArg Except.ok last
  obtain rfl : some 3 = found := Except.ok.inj (located.symm.trans search)
  have refused := (superlevelSupremum_exact f [7, 2, 2, -1] 5 0).2 lt
  exact ⟨le, affine, located, given, greatest 3 rfl, lt, refused.1⟩

end Limit
end LineMeasure
