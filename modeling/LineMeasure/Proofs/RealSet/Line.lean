import LineMeasure.Proofs.Interval.Order
import Mathlib.Algebra.Order.Archimedean.Real.Basic
import Mathlib.Order.Interval.Set.Basic

/-!
# Sets of real numbers

The ends of an interval also bound real numbers, so that an interval, and a set, has real members
beside its rational ones (`Interval.toSet`, `RealSet.toSet`). For finitely many intervals every real
number has a rational one that lies in the same of them (`exists_rat_mem_iff`). Hence what the
operations on sets do to rational members they do to real ones.
-/

namespace LineMeasure

namespace Interval

/-- The real numbers inside a lower end. -/
def lowerSet : Option Bound → Set ℝ
  | none => Set.univ
  | some ⟨p, true⟩ => Set.Ici p
  | some ⟨p, false⟩ => Set.Ioi p

/-- The real numbers inside an upper end. -/
def upperSet : Option Bound → Set ℝ
  | none => Set.univ
  | some ⟨p, true⟩ => Set.Iic p
  | some ⟨p, false⟩ => Set.Iio p

/-- The real members of an interval. -/
def toSet (i : Interval) : Set ℝ :=
  lowerSet i.lower ∩ upperSet i.upper

/-- The real number `x` and the rational number `y` lie on the same side of `p`. -/
def Alike (x : ℝ) (y p : Rat) : Prop :=
  ((p : ℝ) < x ↔ p < y) ∧ (x < p ↔ y < p)

/-- Right above a real number there is room below all points of a list that are above it. -/
lemma exists_room_above (x : ℝ) (ps : List Rat) : ∃ b > x, ∀ p ∈ ps, x < p → b ≤ (p : ℝ) := by
  induction ps with
  | nil => exact ⟨x + 1, lt_add_one x, by simp⟩
  | cons p ps ih =>
    obtain ⟨b, above, room⟩ := ih
    by_cases hp : x < p
    · refine ⟨min b p, lt_min above hp, fun q hq lt => ?_⟩
      rcases List.mem_cons.1 hq with rfl | hq
      · exact min_le_right _ _
      · exact (min_le_left _ _).trans (room q hq lt)
    · refine ⟨b, above, fun q hq lt => ?_⟩
      rcases List.mem_cons.1 hq with rfl | hq
      · exact absurd lt hp
      · exact room q hq lt

/-- A real number lies with some rational one on the same side of all points of a list. -/
lemma exists_alike (x : ℝ) (ps : List Rat) : ∃ y : Rat, ∀ p ∈ ps, Alike x y p := by
  by_cases rational : ∃ q : Rat, (q : ℝ) = x
  · obtain ⟨q, rfl⟩ := rational
    exact ⟨q, fun p _ => ⟨Rat.cast_lt, Rat.cast_lt⟩⟩
  -- an irrational number is none of the points, so that a rational one right above it passes none
  -- of them
  · obtain ⟨b, above, room⟩ := exists_room_above x ps
    obtain ⟨y, xy, yb⟩ := exists_rat_btwn above
    refine ⟨y, fun p hp => ?_⟩
    rcases lt_trichotomy (p : ℝ) x with lt | eq | lt
    · have py : p < y := Rat.cast_lt.1 (lt.trans xy)
      exact ⟨iff_of_true lt py, iff_of_false lt.asymm py.asymm⟩
    · exact absurd ⟨p, eq⟩ rational
    · have yp : y < p := Rat.cast_lt.1 (yb.trans_le (room p hp lt))
      exact ⟨iff_of_false lt.asymm yp.asymm, iff_of_true lt yp⟩

/-- What lies on the same side of the point of a lower end lies inside it or not together. -/
lemma mem_lowerSet_iff {lower : Option Bound} {x : ℝ} {y : Rat}
    (h : ∀ b ∈ lower, Alike x y b.point) : x ∈ lowerSet lower ↔ InLower lower y := by
  cases lower with
  | none => simp [lowerSet]
  | some b =>
    obtain ⟨p, closed⟩ := b
    obtain ⟨below, above⟩ : Alike x y p := h _ rfl
    cases closed with
    | true =>
      rw [lowerSet, Set.mem_Ici, ← not_lt, above, not_lt, inLower_some]
      simp [Bound.IsBelow, le_iff_lt_or_eq]
    | false =>
      rw [lowerSet, Set.mem_Ioi, below, inLower_some]
      simp [Bound.IsBelow]

/-- What lies on the same side of the point of an upper end lies inside it or not together. -/
lemma mem_upperSet_iff {upper : Option Bound} {x : ℝ} {y : Rat}
    (h : ∀ b ∈ upper, Alike x y b.point) : x ∈ upperSet upper ↔ InUpper upper y := by
  cases upper with
  | none => simp [upperSet]
  | some b =>
    obtain ⟨p, closed⟩ := b
    obtain ⟨below, above⟩ : Alike x y p := h _ rfl
    cases closed with
    | true =>
      rw [upperSet, Set.mem_Iic, ← not_lt, below, not_lt, inUpper_some]
      simp [Bound.IsAbove, le_iff_lt_or_eq]
    | false =>
      rw [upperSet, Set.mem_Iio, above, inUpper_some]
      simp [Bound.IsAbove]

/-- Every real number lies with some rational one in the same intervals of a list. -/
theorem exists_rat_mem_iff (x : ℝ) (cs : List Interval) :
    ∃ y : Rat, ∀ c ∈ cs, x ∈ c.toSet ↔ y ∈ c := by
  obtain ⟨y, alike⟩ := exists_alike x (cs.flatMap RealSet.endsOf)
  refine ⟨y, fun c hc => ?_⟩
  have lower : ∀ b ∈ c.lower, Alike x y b.point := fun b hb =>
    alike _ (List.mem_flatMap.2 ⟨c, hc, by simp [RealSet.endsOf, Option.mem_def.1 hb]⟩)
  have upper : ∀ b ∈ c.upper, Alike x y b.point := fun b hb =>
    alike _ (List.mem_flatMap.2 ⟨c, hc, by simp [RealSet.endsOf, Option.mem_def.1 hb]⟩)
  rw [toSet, Set.mem_inter_iff, mem_lowerSet_iff lower, mem_upperSet_iff upper, mem_iff]

/-- The rational members among the real ones. -/
@[simp]
lemma cast_mem_toSet {i : Interval} {y : Rat} : (y : ℝ) ∈ i.toSet ↔ y ∈ i := by
  have alike : ∀ p, Alike y y p := fun p => ⟨Rat.cast_lt, Rat.cast_lt⟩
  rw [toSet, Set.mem_inter_iff, mem_lowerSet_iff fun b _ => alike b.point,
    mem_upperSet_iff fun b _ => alike b.point, mem_iff]

end Interval

namespace RealSet
open LineMeasure.Interval

/-- The real members of a set. -/
def toSet (s : RealSet) : Set ℝ :=
  {x | ∃ c ∈ s.components, x ∈ c.toSet}

/-- The real members of a set are those of its pieces. -/
lemma mem_toSet {s : RealSet} {x : ℝ} : x ∈ s.toSet ↔ ∃ c ∈ s.components, x ∈ c.toSet :=
  Iff.rfl

/-- Every real number lies with some rational one in the same sets of a list. -/
theorem exists_rat_mem_iff (x : ℝ) (sets : List RealSet) :
    ∃ y : Rat, ∀ s ∈ sets, x ∈ s.toSet ↔ y ∈ s := by
  obtain ⟨y, alike⟩ := Interval.exists_rat_mem_iff x (sets.flatMap (·.components))
  refine ⟨y, fun s hs => ?_⟩
  rw [mem_toSet, mem_iff]
  exact exists_congr fun c =>
    and_congr_right fun hc => alike c (List.mem_flatMap.2 ⟨s, hs, hc⟩)

/-- The rational members among the real ones. -/
@[simp]
lemma cast_mem_toSet {s : RealSet} {y : Rat} : (y : ℝ) ∈ s.toSet ↔ y ∈ s := by
  simp only [mem_toSet, Interval.cast_mem_toSet, mem_iff]

/-- A list of intervals and the set that is built from it have the same real members. -/
lemma mem_toSet_ofIntervals {cs : List Interval} {x : ℝ} :
    x ∈ (ofIntervals cs).toSet ↔ ∃ c ∈ cs, x ∈ c.toSet := by
  obtain ⟨y, alike⟩ := Interval.exists_rat_mem_iff x (cs ++ (ofIntervals cs).components)
  have listed : (∃ c ∈ cs, x ∈ c.toSet) ↔ ∃ c ∈ cs, y ∈ c :=
    exists_congr fun c => and_congr_right fun hc => alike c (List.mem_append_left _ hc)
  have built : x ∈ (ofIntervals cs).toSet ↔ y ∈ ofIntervals cs :=
    exists_congr fun c => and_congr_right fun hc => alike c (List.mem_append_right _ hc)
  rw [listed, built, mem_ofIntervals]

/-- The real members of a union. -/
@[simp]
lemma toSet_union (s t : RealSet) : (s ∪ t).toSet = s.toSet ∪ t.toSet := by
  ext x
  obtain ⟨y, alike⟩ := exists_rat_mem_iff x [s, t, s ∪ t]
  simp only [List.forall_mem_cons] at alike
  rw [Set.mem_union, alike.1, alike.2.1, alike.2.2.1, mem_union]

/-- The real members of an intersection. -/
@[simp]
lemma toSet_inter (s t : RealSet) : (s ∩ t).toSet = s.toSet ∩ t.toSet := by
  ext x
  obtain ⟨y, alike⟩ := exists_rat_mem_iff x [s, t, s ∩ t]
  simp only [List.forall_mem_cons] at alike
  rw [Set.mem_inter_iff, alike.1, alike.2.1, alike.2.2.1, mem_inter]

/-- The real members of a difference. -/
@[simp]
lemma toSet_sdiff (s t : RealSet) : (s \ t).toSet = s.toSet \ t.toSet := by
  ext x
  obtain ⟨y, alike⟩ := exists_rat_mem_iff x [s, t, s \ t]
  simp only [List.forall_mem_cons] at alike
  rw [Set.mem_sdiff, alike.1, alike.2.1, alike.2.2.1, mem_sdiff]

/-- Inclusion is that of the real members. -/
lemma toSet_subset_iff {s t : RealSet} : s.toSet ⊆ t.toSet ↔ s ⊆ t := by
  constructor
  · intro h x hx
    exact cast_mem_toSet.1 (h (cast_mem_toSet.2 hx))
  · intro h x hx
    obtain ⟨y, alike⟩ := exists_rat_mem_iff x [s, t]
    simp only [List.forall_mem_cons] at alike
    rw [alike.2.1]
    exact h y (alike.1.1 hx)

end RealSet
end LineMeasure
