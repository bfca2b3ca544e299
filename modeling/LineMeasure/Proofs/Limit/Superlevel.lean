import LineMeasure.Limit.Superlevel
import Mathlib.Algebra.Order.Field.Rat
import Mathlib.Tactic.Lemma

/-!
# The last root at an end of a segment

When a function has a root at an end of a segment and is negative at all ends above it, the search
from right to left ends at that root (`superlevelSupremum_of_root`). The segment on which the sign
changes begins at the root, so that the interpolation does not move away from it.
-/

namespace LineMeasure.Limit

variable {f : Rat → Rat} {points breakpoints : List Rat} {low high left right value r : Rat}

/-- The root between a point with the value zero and another point is the first of the two. -/
lemma rootBetween_zero : rootBetween left 0 right value = left := by
  rw [rootBetween, zero_mul, zero_div, add_zero]

/-- Among decreasing points the search ends at a root behind which the function is negative. -/
lemma lastNonnegative_of_root (decreasing : points.Pairwise (· > ·)) (mem : r ∈ points)
    (root : f r = 0)
    (negative : ∀ p ∈ points, r < p → f p < 0) : lastNonnegative f points = some r := by
  fun_induction lastNonnegative f points with
  | case1 right left rest nonneg =>
    rcases List.mem_cons.1 mem with rfl | behind
    · rfl
    · have above : r < right := (List.pairwise_cons.1 decreasing).1 r behind
      exact absurd nonneg (not_le.2 (negative right List.mem_cons_self above))
  | case2 right left rest below nonneg =>
    rcases List.mem_cons.1 mem with rfl | behind
    · exact absurd root.ge below
    · rcases List.mem_cons.1 behind with rfl | behind
      -- the sign changes on the segment that begins at the root
      · rw [root, rootBetween_zero]
      · have above : r < left :=
          (List.pairwise_cons.1 (List.pairwise_cons.1 decreasing).2).1 r behind
        exact absurd nonneg (not_le.2 (negative left (by simp) above))
  | case3 right left rest below _ ih =>
    rcases List.mem_cons.1 mem with rfl | behind
    · exact absurd root.ge below
    · exact ih (List.pairwise_cons.1 decreasing).2 behind
        fun p hp => negative p (List.mem_cons_of_mem _ hp)
  | case4 p => rw [List.mem_singleton.1 mem]
  | case5 p below =>
    rw [List.mem_singleton] at mem
    rw [← mem] at below
    exact absurd root.ge below
  | case6 => cases mem

/-- The ends of the segments of an interval lie in it. -/
lemma mem_segmentEnds {x : Rat} :
    x ∈ segmentEnds breakpoints low high ↔
      x = low ∨ x = high ∨ x ∈ breakpoints ∧ low < x ∧ x < high := by
  simp [segmentEnds]

/-- The largest point at which a function is not negative is a root at an end of a segment, when the
function is negative above it. -/
theorem superlevelSupremum_of_root (le : low ≤ high) (mem : r ∈ segmentEnds breakpoints low high)
    (root : f r = 0) (negative : ∀ x, r < x → x ≤ high → f x < 0) :
    superlevelSupremum f breakpoints low high = .ok (some r) := by
  have decreasing : (segmentEnds breakpoints low high).reverse.Pairwise (· > ·) :=
    List.pairwise_reverse.2 (Rational.pairwise_increasing _)
  rw [superlevelSupremum, if_neg (not_lt.2 le)]
  congr 1
  apply lastNonnegative_of_root decreasing (List.mem_reverse.2 mem) root
  intro p hp above
  apply negative p above
  rcases mem_segmentEnds.1 (List.mem_reverse.1 hp) with rfl | rfl | ⟨-, -, below⟩
  · exact le
  · exact le_rfl
  · exact below.le

end LineMeasure.Limit
