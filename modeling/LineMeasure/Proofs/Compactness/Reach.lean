import LineMeasure.Compactness.Sweep
import Mathlib.Algebra.Order.Field.Rat
import Mathlib.Tactic.Lemma
import Mathlib.Tactic.NormNum

/-!
# The first uncovered point

A pass over terms in order of their left ends stops where a gap begins: everything from `a` up to
the point that it reaches is covered (`covers_firstUncovered`), and when that point is below `b` it
lies in no term (`firstUncovered_not_mem`), although the pass never looks at the terms behind the
gap. So the point is the least one that is `b` or in no term (`isLeast_firstUncovered`), which says
nothing about an order of the terms, nor about repeated, empty or reversed ones; and with more terms
it is at least as far. It is `a`, `b` or the right end of a term.
-/

namespace LineMeasure

namespace Rational

lemma larger_eq_max (p q : Rat) : larger p q = max p q :=
  rfl

lemma smaller_eq_min (p q : Rat) : smaller p q = min p q :=
  rfl

end Rational

namespace Compactness

/-- The terms cover every number from `a` on and below `x`. -/
def CoversUpTo (terms : List HalfOpen) (a x : Rat) : Prop :=
  ∀ y, a ≤ y → y < x → ∃ t ∈ terms, y ∈ t.toInterval

variable {terms us : List HalfOpen} {a b r x y : Rat}

/-- More terms cover as far, and as far as they cover they cover any shorter way. -/
lemma CoversUpTo.mono (h : CoversUpTo terms a x) (included : terms ⊆ us) (le : y ≤ x) :
    CoversUpTo us a y := by
  intro z above below
  obtain ⟨t, ht, hz⟩ := h z above (lt_of_lt_of_le below le)
  exact ⟨t, included ht, hz⟩

/-- A pass does not go back. -/
lemma le_advance : r ≤ advance b r terms := by
  induction terms generalizing r with
  | nil => exact le_rfl
  | cons t rest ih =>
    rw [advance]
    split
    · exact le_rfl
    · exact (le_max_left r t.right).trans ih

/-- A pass leaves nothing uncovered behind it. -/
lemma covers_advance : CoversUpTo terms r (advance b r terms) := by
  intro x above below
  induction terms generalizing r with
  | nil => exact absurd above (not_le.2 below)
  | cons t rest ih =>
    rw [advance] at below
    split at below
    next => exact absurd above (not_le.2 below)
    next go =>
      rw [Rational.larger_eq_max] at below
      -- the term begins at or before `r`, so that it holds everything up to its right end
      by_cases inside : x < t.right
      · have start : t.left ≤ x := (not_lt.1 fun gap => go (.inr gap)).trans above
        exact ⟨t, List.mem_cons_self, HalfOpen.mem_toInterval.2 ⟨start, inside⟩⟩
      · obtain ⟨s, hs, hx⟩ := ih (max_le above (not_lt.1 inside)) below
        exact ⟨s, List.mem_cons_of_mem _ hs, hx⟩

/-- A pass that stops below `b` stops at a point of no term; those behind it begin later. -/
lemma advance_not_mem (sorted : terms.Pairwise (·.left ≤ ·.left)) (stops : advance b r terms < b) :
    ∀ t ∈ terms, ¬ advance b r terms ∈ t.toInterval := by
  induction terms generalizing r with
  | nil => exact fun _ => List.not_mem_nil.elim
  | cons t rest ih =>
    obtain ⟨first, sorted⟩ := List.pairwise_cons.1 sorted
    rw [advance] at stops ⊢
    split at stops
    next stop =>
      -- the pass stops at `r` in front of `t`, and no later term begins before `t`
      rw [if_pos stop]
      have gap : r < t.left := stop.resolve_left (not_le.2 stops)
      intro s hs hr
      have behind : t.left ≤ s.left := by
        rcases List.mem_cons.1 hs with rfl | hs
        · exact le_rfl
        · exact first s hs
      exact absurd (HalfOpen.mem_toInterval.1 hr).1 (not_le.2 (lt_of_lt_of_le gap behind))
    next go =>
      rw [if_neg go]
      intro s hs hr
      rcases List.mem_cons.1 hs with rfl | hs
      · have passed : s.right ≤ advance b (Rational.larger r s.right) rest :=
          (le_max_right r s.right).trans le_advance
        exact absurd (HalfOpen.mem_toInterval.1 hr).2 (not_lt.2 passed)
      · exact ih sorted stops s hs hr

/-- A pass stops where it began or at the right end of a term. -/
lemma advance_mem_ends : advance b r terms = r ∨ ∃ t ∈ terms, advance b r terms = t.right := by
  induction terms generalizing r with
  | nil => exact .inl rfl
  | cons t rest ih =>
    rw [advance]
    split
    · exact .inl rfl
    · rcases ih with start | ⟨s, hs, stop⟩
      · rw [start, Rational.larger_eq_max]
        rcases max_choice r t.right with same | moved
        · exact .inl same
        · exact .inr ⟨t, List.mem_cons_self, moved⟩
      · exact .inr ⟨s, List.mem_cons_of_mem _ hs, stop⟩

/-- The terms are brought in order of their left ends. -/
lemma pairwise_mergeSort_left (terms : List HalfOpen) :
    (terms.mergeSort fun s t => s.left ≤ t.left).Pairwise (·.left ≤ ·.left) := by
  have sorted := @List.pairwise_mergeSort _ (fun s t : HalfOpen => decide (s.left ≤ t.left))
    (fun s t u => by simpa using le_trans) (fun s t => by simpa using le_total s.left t.left) terms
  exact sorted.imp of_decide_eq_true

lemma firstUncovered_eq_min (a b : Rat) (terms : List HalfOpen) :
    firstUncovered a b terms = min (advance b a (terms.mergeSort fun s t => s.left ≤ t.left)) b :=
  rfl

lemma firstUncovered_le (a b : Rat) (terms : List HalfOpen) : firstUncovered a b terms ≤ b :=
  min_le_right _ _

lemma le_firstUncovered (le : a ≤ b) (terms : List HalfOpen) : a ≤ firstUncovered a b terms :=
  le_min le_advance le

/-- Everything from `a` up to the first uncovered point is covered. -/
theorem covers_firstUncovered : CoversUpTo terms a (firstUncovered a b terms) := by
  rw [firstUncovered_eq_min]
  exact covers_advance.mono (fun t ht => List.mem_mergeSort.1 ht) (min_le_left _ _)

/-- The first uncovered point is in no term when it is below `b`. -/
theorem firstUncovered_not_mem (below : firstUncovered a b terms < b) :
    ∀ t ∈ terms, ¬ firstUncovered a b terms ∈ t.toInterval := by
  rw [firstUncovered_eq_min] at below ⊢
  have stops := (min_lt_iff.1 below).resolve_right (lt_irrefl b)
  rw [min_eq_left stops.le]
  intro t ht
  exact advance_not_mem (pairwise_mergeSort_left terms) stops t (List.mem_mergeSort.2 ht)

/-- The first uncovered point is an end of the interval or of a term. -/
lemma firstUncovered_mem_ends (a b : Rat) (terms : List HalfOpen) :
    firstUncovered a b terms = a ∨ firstUncovered a b terms = b ∨
      ∃ t ∈ terms, firstUncovered a b terms = t.right := by
  rw [firstUncovered_eq_min]
  rcases min_choice (advance b a (terms.mergeSort fun s t => s.left ≤ t.left)) b with pass | stop
  · rw [pass]
    rcases advance_mem_ends with start | ⟨t, ht, stop⟩
    · exact .inl start
    · exact .inr (.inr ⟨t, List.mem_mergeSort.1 ht, stop⟩)
  · exact .inr (.inl stop)

/-- The pass reaches `b` exactly when the terms cover `[a, b)`. -/
theorem firstUncovered_eq_iff (le : a ≤ b) :
    firstUncovered a b terms = b ↔ CoversUpTo terms a b := by
  constructor
  · intro reached
    have covers : CoversUpTo terms a (firstUncovered a b terms) := covers_firstUncovered
    rwa [reached] at covers
  · intro covers
    by_contra short
    have below := lt_of_le_of_ne (firstUncovered_le a b terms) short
    obtain ⟨t, ht, inside⟩ := covers _ (le_firstUncovered le terms) below
    exact firstUncovered_not_mem below t ht inside

/-- The first uncovered point is the least point of `[a, b]` that is `b` or in no term. -/
theorem isLeast_firstUncovered (le : a ≤ b) (terms : List HalfOpen) :
    IsLeast {y | a ≤ y ∧ y ≤ b ∧ (y < b → ∀ t ∈ terms, ¬ y ∈ t.toInterval)}
      (firstUncovered a b terms) := by
  constructor
  · exact ⟨le_firstUncovered le terms, firstUncovered_le a b terms, firstUncovered_not_mem⟩
  · rintro y ⟨above, -, uncovered⟩
    by_contra before
    have passed : y < firstUncovered a b terms := not_le.1 before
    obtain ⟨t, ht, inside⟩ := covers_firstUncovered y above passed
    exact uncovered (lt_of_lt_of_le passed (firstUncovered_le a b terms)) t ht inside

/-- With more terms the first uncovered point is at least as far. -/
lemma firstUncovered_le_of_subset (le : a ≤ b) (included : terms ⊆ us) :
    firstUncovered a b terms ≤ firstUncovered a b us := by
  apply (isLeast_firstUncovered le terms).2
  refine ⟨le_firstUncovered le us, firstUncovered_le a b us, fun below t ht => ?_⟩
  exact firstUncovered_not_mem below t (included ht)

/-- The first uncovered point ends what is covered, whatever the order of the terms. -/
theorem firstUncovered_exact (le : a ≤ b) (terms : List HalfOpen) :
    a ≤ firstUncovered a b terms ∧ firstUncovered a b terms ≤ b ∧
    (∀ y, a ≤ y → y < firstUncovered a b terms → ∃ t ∈ terms, y ∈ t.toInterval) ∧
    (firstUncovered a b terms < b → ∀ t ∈ terms, ¬ firstUncovered a b terms ∈ t.toInterval) ∧
    (∀ us, (∀ t, t ∈ us ↔ t ∈ terms) → firstUncovered a b us = firstUncovered a b terms) ∧
    ∀ us, terms ⊆ us → firstUncovered a b terms ≤ firstUncovered a b us := by
  refine ⟨le_firstUncovered le terms, firstUncovered_le a b terms, covers_firstUncovered,
    firstUncovered_not_mem, ?_, fun us => firstUncovered_le_of_subset le⟩
  intro us same
  apply le_antisymm
  · exact firstUncovered_le_of_subset le fun t ht => (same t).1 ht
  · exact firstUncovered_le_of_subset le fun t ht => (same t).2 ht

/-- One term is reversed and one is behind the gap that begins at `2`. -/
theorem firstUncovered_exact_reversed :
    let terms : List HalfOpen := [⟨1, 2⟩, ⟨5, 1⟩, ⟨3, 6⟩, ⟨-1, 3 / 2⟩]
    (0 : Rat) ≤ 4 ∧ firstUncovered 0 4 terms = 2 ∧
      (∀ y, 0 ≤ y → y < 2 → ∃ t ∈ terms, y ∈ t.toInterval) ∧ (∀ t ∈ terms, ¬ 2 ∈ t.toInterval) ∧
      firstUncovered 0 4 (⟨1, 2⟩ :: terms.reverse) = 2 ∧
      2 ≤ firstUncovered 0 4 (⟨2, 3⟩ :: terms) := by
  intro terms
  have le : (0 : Rat) ≤ 4 := by decide
  have sorted :
      (terms.mergeSort fun s t => s.left ≤ t.left) = [⟨-1, 3 / 2⟩, ⟨1, 2⟩, ⟨3, 6⟩, ⟨5, 1⟩] := by
    norm_num [terms, List.mergeSort, List.MergeSort.Internal.splitInTwo, List.merge]
  have reached : firstUncovered 0 4 terms = 2 := by
    rw [firstUncovered, sorted]
    decide +kernel
  have exact := firstUncovered_exact le terms
  rw [reached] at exact
  obtain ⟨-, -, covers, uncovered, same, further⟩ := exact
  refine ⟨le, reached, covers, uncovered (by decide), same _ fun t => ?_,
    further _ (List.subset_cons_self _ _)⟩
  simp only [List.mem_cons, List.mem_reverse, terms]
  tauto

end Compactness
end LineMeasure
