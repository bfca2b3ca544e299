import LineMeasure.RealSet.Inclusion
import Mathlib.Tactic.Linarith
import Mathlib.Tactic.Lemma

/-!
# Ends of intervals and the order of the line

What lies inside a lower end is closed under going up and what lies inside an upper end under going
down, an end is known from the numbers inside it (`inLower_injective`, `inUpper_injective`), and an
interval that precedes another leaves a number between the two (`Precedes.exists_gap`).
-/

namespace LineMeasure

namespace Bound

/-- A bound of a lower end is known from the numbers inside it. -/
lemma isBelow_injective {a b : Bound} (h : ∀ x, a.IsBelow x ↔ b.IsBelow x) : a = b := by
  obtain ⟨p, c⟩ := a
  obtain ⟨q, d⟩ := b
  have middle := h ((p + q) / 2)
  have left := h p
  have right := h q
  simp only [IsBelow] at middle left right
  rcases lt_trichotomy p q with lt | rfl | lt
  · grind
  · have flags : c = true ↔ d = true := by simpa using left
    rw [Bool.eq_iff_iff.2 flags]
  · grind

/-- A bound of an upper end is known from the numbers inside it. -/
lemma isAbove_injective {a b : Bound} (h : ∀ x, a.IsAbove x ↔ b.IsAbove x) : a = b := by
  have flipped : a.flip = b.flip := by
    apply isBelow_injective
    intro x
    rw [isBelow_flip, isBelow_flip, h]
  cases a
  cases b
  simpa [flip] using flipped

end Bound

namespace Interval

/-- An infinite end is open. -/
lemma open_of_infinite (i : Interval) :
    (i.lower = none → i.leftClosed = false) ∧ (i.upper = none → i.rightClosed = false) := by
  constructor <;> intro infinite
  · rw [leftClosed, infinite, Option.any_none]
  · rw [rightClosed, infinite, Option.any_none]

/-- A number above one inside a lower end is inside it too. -/
lemma InLower.mono {lower : Option Bound} {x y : Rat} (h : InLower lower x) (le : x ≤ y) :
    InLower lower y := by
  intro b hb
  rcases h b hb with lt | ⟨closed, rfl⟩
  · exact .inl (lt_of_lt_of_le lt le)
  · rcases lt_or_eq_of_le le with lt | eq
    · exact .inl lt
    · exact .inr ⟨closed, eq⟩

/-- A number below one inside an upper end is inside it too. -/
lemma InUpper.anti {upper : Option Bound} {x y : Rat} (h : InUpper upper y) (le : x ≤ y) :
    InUpper upper x := by
  intro b hb
  rcases h b hb with lt | ⟨closed, rfl⟩
  · exact .inl (lt_of_le_of_lt le lt)
  · rcases lt_or_eq_of_le le with lt | eq
    · exact .inl lt
    · exact .inr ⟨closed, eq⟩

/-- A lower end is known from the numbers inside it. -/
lemma inLower_injective {a b : Option Bound} (h : ∀ x, InLower a x ↔ InLower b x) : a = b := by
  cases a with
  | none =>
    cases b with
    | none => rfl
    | some b =>
      have below := (h (b.point - 1)).1 (inLower_none _)
      rw [inLower_some] at below
      grind [Bound.IsBelow]
  | some a =>
    cases b with
    | none =>
      have below := (h (a.point - 1)).2 (inLower_none _)
      rw [inLower_some] at below
      grind [Bound.IsBelow]
    | some b =>
      congr 1
      apply Bound.isBelow_injective
      simpa using h

/-- An upper end is known from the numbers inside it. -/
lemma inUpper_injective {a b : Option Bound} (h : ∀ x, InUpper a x ↔ InUpper b x) : a = b := by
  cases a with
  | none =>
    cases b with
    | none => rfl
    | some b =>
      have above := (h (b.point + 1)).1 (inUpper_none _)
      rw [inUpper_some] at above
      grind [Bound.IsAbove]
  | some a =>
    cases b with
    | none =>
      have above := (h (a.point + 1)).2 (inUpper_none _)
      rw [inUpper_some] at above
      grind [Bound.IsAbove]
    | some b =>
      congr 1
      apply Bound.isAbove_injective
      simpa using h

/-- What is not inside the upper end of an interval with members is inside its lower end. -/
lemma inLower_of_not_inUpper {i : Interval} {x : Rat} (nonempty : i.isEmpty = false)
    (h : ¬ InUpper i.upper x) : InLower i.lower x := by
  obtain ⟨y, below, above⟩ := exists_mem nonempty
  rcases le_total x y with le | le
  · exact absurd (above.anti le) h
  · exact below.mono le

/-- Of two intervals in order, what is inside the lower end of the second is behind the first. -/
lemma Precedes.not_inUpper {i j : Interval} {x : Rat} (h : i.Precedes j) (hx : InLower j.lower x) :
    ¬ InUpper i.upper x := by
  obtain ⟨_, _ | u⟩ := i
  · exact h.elim
  obtain ⟨_ | l, _⟩ := j
  · exact h.elim
  simp only [Precedes, inLower_some, inUpper_some, Bound.IsBelow, Bound.IsAbove] at h hx ⊢
  grind

/-- Between two intervals in order there is a number that belongs to neither; behind the first
interval it can be found below any given number. -/
lemma Precedes.exists_gap {i j : Interval} {x : Rat} (h : i.Precedes j) (hx : ¬ InUpper i.upper x) :
    ∃ y ≤ x, ¬ InUpper i.upper y ∧ ¬ InLower j.lower y := by
  by_cases before : InLower j.lower x
  · obtain ⟨_, _ | u⟩ := i
    · exact h.elim
    obtain ⟨_ | l, _⟩ := j
    · exact h.elim
    simp only [Precedes, inLower_some, inUpper_some, Bound.IsBelow, Bound.IsAbove] at h hx before ⊢
    -- the middle also serves ends at one point, where it is that point
    refine ⟨(u.point + l.point) / 2, ?_⟩
    grind
  · exact ⟨x, le_rfl, hx, before⟩

/-- `i` begins before `j`: the lower end of `j` is finite and its point is above that of `i`. -/
def StartsBefore (i j : Interval) : Prop :=
  ∃ l, j.lower = some l ∧ ∀ k ∈ i.lower, k.point < l.point

/-- An interval with members begins before every interval that it precedes. -/
lemma Precedes.startsBefore {i j : Interval} (h : i.Precedes j) (nonempty : i.isEmpty = false) :
    i.StartsBefore j := by
  obtain ⟨lower, _ | u⟩ := i
  · exact h.elim
  obtain ⟨_ | l, upper⟩ := j
  · exact h.elim
  refine ⟨l, rfl, fun k hk => ?_⟩
  obtain rfl : lower = some k := hk
  simp only [Precedes, isEmpty] at h nonempty
  grind

end Interval
end LineMeasure
