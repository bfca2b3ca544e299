import LineMeasure.Proofs.Compactness.Reach
import LineMeasure.Proofs.Cover.Canonical

/-!
# The covered length is a volume

The covered length counts what several terms cover once: it is the volume of the union of the terms,
cut off at both ends (`volume_unionSet_inter`). Hence terms that cover `[a, x)` cover its full
length (`coveredLength_of_covers`), and terms that leave out one point of it cover less
(`coveredLength_lt`), since they leave out what is right behind the point as well.
-/

namespace LineMeasure

/-- The real members of a half-open interval. -/
lemma HalfOpen.toSet_toInterval (t : HalfOpen) :
    t.toInterval.toSet = Set.Ico (t.left : ℝ) t.right :=
  Set.Ici_inter_Iio

namespace Compactness
open MeasureTheory

/-- The real numbers in the terms of a list. -/
def termSet (terms : List HalfOpen) : Set ℝ :=
  RealSet.unionSet (terms.map HalfOpen.toInterval)

/-- The real numbers from a point on, or all when none is given. -/
def fromOn : Option Rat → Set ℝ
  | none => Set.univ
  | some r => Set.Ici r

variable {terms : List HalfOpen} {t : HalfOpen} {a r x : Rat} {z : ℝ}

lemma mem_termSet : z ∈ termSet terms ↔ ∃ t ∈ terms, (t.left : ℝ) ≤ z ∧ z < t.right := by
  simp [termSet, RealSet.unionSet, HalfOpen.toSet_toInterval]

/-- The length beyond a point is not negative. -/
lemma lengthBeyond_nonneg (reach : Option Rat) (terms : List HalfOpen) :
    0 ≤ lengthBeyond reach terms := by
  induction terms generalizing reach with
  | nil => exact le_rfl
  | cons t rest ih =>
    rw [lengthBeyond]
    split
    · exact ih reach
    · exact add_nonneg (Rational.positivePart_nonneg _) (ih _)

lemma mem_fromOn_some : z ∈ fromOn (some r) ↔ (r : ℝ) ≤ z :=
  Iff.rfl

/-- A number that is brought up to a point, when one is given, bounds what lies from both on. -/
lemma elim_larger_le_iff {q : Rat} (reach : Option Rat) :
    ((reach.elim q (Rational.larger q) : Rat) : ℝ) ≤ z ↔ (q : ℝ) ≤ z ∧ z ∈ fromOn reach := by
  cases reach with
  | none => simp [fromOn]
  | some r => simp [fromOn, Rational.larger_eq_max]

/-- The first of sorted terms, and what the others cover from its right end on, make up what all of
them cover. -/
lemma termSet_cons_inter (first : ∀ s ∈ terms, t.left ≤ s.left) (reach : Option Rat) :
    termSet (t :: terms) ∩ fromOn reach =
      Set.Ico ((reach.elim t.left (Rational.larger t.left) : Rat) : ℝ) t.right ∪
        termSet terms ∩ fromOn (some (reach.elim t.right (Rational.larger t.right))) := by
  ext z
  simp only [Set.mem_inter_iff, Set.mem_union, Set.mem_Ico, mem_termSet, List.mem_cons,
    exists_eq_or_imp, mem_fromOn_some, elim_larger_le_iff]
  constructor
  · rintro ⟨⟨start, stop⟩ | ⟨s, hs, start, stop⟩, beyond⟩
    · exact .inl ⟨⟨start, beyond⟩, stop⟩
    -- what a later term covers in front of the right end of the first one, that one covers already
    · rcases lt_or_ge z (t.right : ℝ) with inside | behind
      · exact .inl ⟨⟨(Rat.cast_le.2 (first s hs)).trans start, beyond⟩, inside⟩
      · exact .inr ⟨⟨s, hs, start, stop⟩, behind, beyond⟩
  · rintro (⟨⟨start, beyond⟩, stop⟩ | ⟨⟨s, hs, start, stop⟩, -, beyond⟩)
    · exact ⟨.inl ⟨start, stop⟩, beyond⟩
    · exact ⟨.inr ⟨s, hs, start, stop⟩, beyond⟩

/-- The terms of a list cover a measurable set. -/
lemma measurableSet_termSet (terms : List HalfOpen) : MeasurableSet (termSet terms) :=
  RealSet.measurableSet_unionSet _

/-- The length that sorted terms add beyond a point is the volume of what they cover from there. -/
lemma volume_termSet_fromOn (sorted : terms.Pairwise (·.left ≤ ·.left)) (reach : Option Rat) :
    volume (termSet terms ∩ fromOn reach) = ENNReal.ofReal (lengthBeyond reach terms) := by
  induction terms generalizing reach with
  | nil => simp [termSet, lengthBeyond]
  | cons t rest ih =>
    obtain ⟨first, sorted⟩ := List.pairwise_cons.1 sorted
    rw [lengthBeyond]
    split
    next empty =>
      have nothing : Set.Ico (t.left : ℝ) t.right = ∅ :=
        Set.Ico_eq_empty_of_le (Rat.cast_le.2 empty)
      rw [termSet, List.map_cons, RealSet.unionSet_cons, HalfOpen.toSet_toInterval, nothing,
        Set.empty_union]
      exact ih sorted reach
    next =>
      have apart :
          Disjoint (Set.Ico ((reach.elim t.left (Rational.larger t.left) : Rat) : ℝ) t.right)
            (termSet rest ∩ fromOn (some (reach.elim t.right (Rational.larger t.right)))) := by
        rw [Set.disjoint_left]
        rintro z ⟨-, inside⟩ ⟨-, beyond⟩
        exact absurd (elim_larger_le_iff reach |>.1 beyond).1 (not_le.2 inside)
      rw [termSet_cons_inter first reach,
        measure_union apart ((measurableSet_termSet rest).inter measurableSet_Ici), ih sorted,
        Real.volume_Ico, ← Rat.cast_sub, ← ENNRat.toENNReal_ofPositivePart, Rat.cast_add,
        ENNReal.ofReal_add (Rat.cast_nonneg.2 (Rational.positivePart_nonneg _))
          (Rat.cast_nonneg.2 (lengthBeyond_nonneg _ _))]
      rfl

lemma pieceLe_iff {s t : HalfOpen} :
    pieceLe s t = true ↔ s.left < t.left ∨ s.left = t.left ∧ s.right ≤ t.right := by
  simp [pieceLe]

/-- The order of pieces is transitive. -/
lemma pieceLe_trans (s t u : HalfOpen) (st : pieceLe s t = true) (tu : pieceLe t u = true) :
    pieceLe s u = true := by
  rw [pieceLe_iff] at *
  grind

/-- Any two pieces are in order one way or the other. -/
lemma pieceLe_total (s t : HalfOpen) : (pieceLe s t || pieceLe t s) = true := by
  rw [Bool.or_eq_true, pieceLe_iff, pieceLe_iff]
  grind

/-- Pieces in order are in order of their left ends. -/
lemma left_le_of_pieceLe {s t : HalfOpen} (h : pieceLe s t = true) : s.left ≤ t.left := by
  rcases pieceLe_iff.1 h with lt | ⟨eq, -⟩
  · exact lt.le
  · exact eq.le

/-- The covered length is the volume of the union of the terms, cut off at `x` and a given `a`. -/
theorem volume_termSet_inter (terms : List HalfOpen) (x : Rat) (a : Option Rat) :
    volume (termSet terms ∩ (fromOn a ∩ Set.Iio x)) = ENNReal.ofReal (coveredLength terms x a) := by
  have sorted := List.pairwise_mergeSort pieceLe_trans pieceLe_total (terms.map (clip a x))
  -- a term that is cut off at both ends holds what the whole term holds between them
  have cut : termSet terms ∩ (fromOn a ∩ Set.Iio x) =
      termSet ((terms.map (clip a x)).mergeSort pieceLe) ∩ fromOn none := by
    ext z
    simp only [fromOn, Set.inter_univ, Set.mem_inter_iff, mem_termSet, List.mem_mergeSort,
      List.mem_map, exists_exists_and_eq_and, clip, elim_larger_le_iff, Rational.smaller_eq_min,
      Rat.cast_min, lt_min_iff, Set.mem_Iio]
    constructor
    · rintro ⟨⟨t, ht, start, stop⟩, from_on, below⟩
      exact ⟨t, ht, ⟨start, from_on⟩, stop, below⟩
    · rintro ⟨t, ht, ⟨start, from_on⟩, stop, below⟩
      exact ⟨⟨t, ht, start, stop⟩, from_on, below⟩
  rw [coveredLength, cut]
  exact volume_termSet_fromOn (sorted.imp left_le_of_pieceLe) none

lemma coveredLength_nonneg (terms : List HalfOpen) (x : Rat) (a : Option Rat) :
    0 ≤ coveredLength terms x a :=
  lengthBeyond_nonneg _ _

/-- The volume of what the terms cover of `[a, x)` is the covered length. -/
lemma volume_termSet_inter_Ico (terms : List HalfOpen) (a x : Rat) :
    volume (termSet terms ∩ Set.Ico (a : ℝ) x) = ENNReal.ofReal (coveredLength terms x (some a)) :=
  volume_termSet_inter terms x (some a)

/-- Terms that cover the rational numbers of `[a, x)` cover the real ones. -/
lemma CoversUpTo.Ico_subset (covers : CoversUpTo terms a x) :
    Set.Ico (a : ℝ) x ⊆ termSet terms := by
  intro z hz
  obtain ⟨y, alike⟩ :=
    Interval.exists_rat_mem_iff z ((HalfOpen.mk a x :: terms).map HalfOpen.toInterval)
  simp only [List.map_cons, List.forall_mem_cons, List.forall_mem_map,
    HalfOpen.toSet_toInterval] at alike
  obtain ⟨start, stop⟩ := HalfOpen.mem_toInterval.1 (alike.1.1 hz)
  obtain ⟨t, ht, hy⟩ := covers y start stop
  have inside := (alike.2 t ht).2 hy
  exact mem_termSet.2 ⟨t, ht, inside⟩

/-- Terms that cover `[a, x)` cover its full length. -/
theorem coveredLength_of_covers (le : a ≤ x) (covers : CoversUpTo terms a x) :
    coveredLength terms x (some a) = x - a := by
  have full : ENNReal.ofReal (coveredLength terms x (some a)) = ENNReal.ofReal (x - a : Rat) := by
    rw [← volume_termSet_inter_Ico, Set.inter_eq_right.2 covers.Ico_subset, Real.volume_Ico,
      Rat.cast_sub]
  rw [ENNReal.ofReal_eq_ofReal_iff (Rat.cast_nonneg.2 (coveredLength_nonneg _ _ _))
    (Rat.cast_nonneg.2 (sub_nonneg.2 le)), Rat.cast_inj] at full
  exact full

/-- Terms that leave out a point of `[a, x)` do not cover its full length. -/
theorem coveredLength_lt (le : a ≤ r) (lt : r < x) (uncovered : ∀ t ∈ terms, ¬ r ∈ t.toInterval) :
    coveredLength terms x (some a) < x - a := by
  -- what begins behind the point leaves room right behind it, and what begins before it has ended
  obtain ⟨s, above, room⟩ := Interval.exists_room_above (r : ℝ) (x :: terms.map HalfOpen.left)
  simp only [List.forall_mem_cons, List.forall_mem_map] at room
  have sx : s ≤ x := room.1 (Rat.cast_lt.2 lt)
  have outside : termSet terms ∩ Set.Ico (a : ℝ) x ⊆ Set.Ico (a : ℝ) r ∪ Set.Ico s x := by
    rintro z ⟨covered, start, stop⟩
    obtain ⟨t, ht, left, right⟩ := mem_termSet.1 covered
    rcases lt_or_ge z (r : ℝ) with before | behind
    · exact .inl ⟨start, before⟩
    · have late : r < t.left := by
        by_contra early
        have inside : r < t.right := Rat.cast_lt.1 (behind.trans_lt right)
        exact uncovered t ht (HalfOpen.mem_toInterval.2 ⟨not_lt.1 early, inside⟩)
      exact .inr ⟨(room.2 t ht (Rat.cast_lt.2 late)).trans left, stop⟩
  have bound :
      ENNReal.ofReal (coveredLength terms x (some a)) ≤ ENNReal.ofReal ((r - a) + (x - s)) := by
    rw [← volume_termSet_inter_Ico,
      ENNReal.ofReal_add (sub_nonneg.2 (Rat.cast_le.2 le)) (sub_nonneg.2 sx), ← Real.volume_Ico,
      ← Real.volume_Ico]
    exact (measure_mono outside).trans (measure_union_le _ _)
  have shares : (0 : ℝ) ≤ (r - a) + (x - s) :=
    add_nonneg (sub_nonneg.2 (Rat.cast_le.2 le)) (sub_nonneg.2 sx)
  rw [ENNReal.ofReal_le_ofReal_iff shares] at bound
  have short : ((coveredLength terms x (some a) : Rat) : ℝ) < ((x - a : Rat) : ℝ) := by
    rw [Rat.cast_sub]
    linarith
  exact Rat.cast_lt.1 short

/-- Terms that cover `[a, x)` are together at least as long. -/
theorem CoversUpTo.le_sum_lengths (covers : CoversUpTo terms a x) :
    .ofPositivePart (x - a) ≤ ENNRat.sum (terms.map HalfOpen.length) := by
  rw [← ENNRat.toENNReal_le, ENNRat.toENNReal_ofPositivePart, Rat.cast_sub, ← Real.volume_Ico,
    ← Cover.map_extent_toInterval]
  exact (measure_mono covers.Ico_subset).trans (RealSet.volume_unionSet_le _)

end Compactness
end LineMeasure
