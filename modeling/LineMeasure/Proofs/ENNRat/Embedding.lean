import LineMeasure.ENNRat.Sum
import Mathlib.Data.ENNReal.Real

/-!
# Extended rational numbers among the extended real ones

`toENNReal` places the values of lengths and measures among the extended nonnegative real numbers,
where the measures of Mathlib take their values. It keeps sums and reflects the order, and different
numbers stay different.
-/

namespace LineMeasure.ENNRat
open scoped ENNReal

/-- The number as an extended real one. -/
noncomputable def toENNReal : ENNRat → ℝ≥0∞
  | finite value _ => ENNReal.ofReal value
  | infinite => ⊤

@[simp]
lemma toENNReal_finite {q : Rat} (h : 0 ≤ q) : (finite q h).toENNReal = ENNReal.ofReal q :=
  rfl

@[simp]
lemma toENNReal_infinite : infinite.toENNReal = ⊤ :=
  rfl

@[simp]
lemma toENNReal_zero : (0 : ENNRat).toENNReal = 0 := by
  change ENNReal.ofReal ((0 : Rat) : ℝ) = 0
  simp

@[simp]
lemma toENNReal_add (a b : ENNRat) : (a + b).toENNReal = a.toENNReal + b.toENNReal := by
  cases a with
  | infinite => simp
  | finite p hp =>
    cases b with
    | infinite => simp
    | finite q hq =>
      rw [finite_add_finite, toENNReal_finite, toENNReal_finite, toENNReal_finite, Rat.cast_add]
      exact ENNReal.ofReal_add (Rat.cast_nonneg.2 hp) (Rat.cast_nonneg.2 hq)

/-- The order is that of the extended real numbers. -/
@[simp]
lemma toENNReal_le {a b : ENNRat} : a.toENNReal ≤ b.toENNReal ↔ a ≤ b := by
  cases b with
  | infinite => simp
  | finite q hq =>
    cases a with
    | infinite =>
      have above : ¬ infinite ≤ finite q hq := id
      simp [above]
    | finite p hp =>
      rw [finite_le_finite, toENNReal_finite, toENNReal_finite,
        ENNReal.ofReal_le_ofReal_iff (Rat.cast_nonneg.2 hq), Rat.cast_le]

/-- Numbers are told apart by their places among the extended real ones. -/
lemma toENNReal_injective : Function.Injective toENNReal := by
  intro a b h
  cases a with
  | infinite =>
    cases b with
    | infinite => rfl
    | finite q hq => exact absurd h.symm ENNReal.ofReal_ne_top
  | finite p hp =>
    cases b with
    | infinite => exact absurd h ENNReal.ofReal_ne_top
    | finite q hq =>
      have le := toENNReal_le.1 h.le
      have ge := toENNReal_le.1 h.ge
      congr
      exact le_antisymm le ge

lemma toENNReal_foldl (start : ENNRat) (terms : List ENNRat) :
    (terms.foldl (· + ·) start).toENNReal = start.toENNReal + (terms.map toENNReal).sum := by
  induction terms generalizing start with
  | nil => simp
  | cons a terms ih =>
    rw [List.foldl_cons, ih, toENNReal_add, List.map_cons, List.sum_cons, add_assoc]

/-- The sum of a list is the sum among the extended real numbers. -/
@[simp]
lemma toENNReal_sum (terms : List ENNRat) : (sum terms).toENNReal = (terms.map toENNReal).sum := by
  rw [sum, toENNReal_foldl, toENNReal_zero, zero_add]

/-- The part of a number above zero. -/
@[simp]
lemma toENNReal_ofPositivePart (q : Rat) : (ofPositivePart q).toENNReal = ENNReal.ofReal q := by
  rw [ofPositivePart, toENNReal_finite]
  rcases le_total 0 q with le | le
  · rw [Rational.positivePart_of_nonneg le]
  · rw [Rational.positivePart_of_nonpos le, Rat.cast_zero, ENNReal.ofReal_zero,
      ENNReal.ofReal_of_nonpos (Rat.cast_nonpos.2 le)]

/-- Extended numbers are added in any order and with any brackets. -/
instance : AddCommMonoid ENNRat where
  add_assoc a b c := by
    apply toENNReal_injective
    simp only [toENNReal_add]
    exact add_assoc _ _ _
  zero_add a := by
    apply toENNReal_injective
    rw [toENNReal_add, toENNReal_zero, zero_add]
  add_zero a := by
    apply toENNReal_injective
    rw [toENNReal_add, toENNReal_zero, add_zero]
  add_comm a b := by
    apply toENNReal_injective
    simp only [toENNReal_add]
    exact add_comm _ _
  nsmul := nsmulRec

/-- Extended numbers are ordered by their places among the extended real ones. -/
instance : PartialOrder ENNRat where
  le_refl a := toENNReal_le.1 le_rfl
  le_trans a b c hab hbc := toENNReal_le.1 (le_trans (toENNReal_le.2 hab) (toENNReal_le.2 hbc))
  le_antisymm a b hab hba :=
    toENNReal_injective (le_antisymm (toENNReal_le.2 hab) (toENNReal_le.2 hba))
  lt_iff_le_not_ge a b := by
    cases a with
    | infinite => simp [LT.lt, lt]
    | finite p hp =>
      cases b with
      | infinite =>
        have above : ¬ infinite ≤ finite p hp := id
        simp [above]
      | finite q hq => exact lt_iff_le_not_ge (a := p)

/-- Zero is the least extended number. -/
lemma nonneg (a : ENNRat) : 0 ≤ a := by
  rw [← toENNReal_le, toENNReal_zero]
  exact zero_le

/-- Of two extended numbers the second is at most the first when it is not above it. -/
lemma not_lt {a b : ENNRat} : ¬ a < b ↔ b ≤ a := by
  cases a with
  | infinite => exact iff_of_true id (le_infinite b)
  | finite p hp =>
    cases b with
    | infinite => exact iff_of_false (not_not_intro finite_lt_infinite) id
    | finite q hq =>
      rw [finite_lt_finite, finite_le_finite]
      exact Rat.not_lt

/-- Adding on both sides keeps the order. -/
instance : IsOrderedAddMonoid ENNRat where
  add_le_add_left a b h c := by
    rw [← toENNReal_le, toENNReal_add, toENNReal_add]
    exact add_le_add_left (toENNReal_le.2 h) _

@[simp]
lemma sum_nil : sum [] = 0 :=
  rfl

/-- The first term of a sum stands apart from the others. -/
@[simp]
lemma sum_cons (a : ENNRat) (terms : List ENNRat) : sum (a :: terms) = a + sum terms := by
  apply toENNReal_injective
  simp only [toENNReal_add, toENNReal_sum, List.map_cons, List.sum_cons]

/-- The sum of two lists, one behind the other. -/
@[simp]
lemma sum_append (as bs : List ENNRat) : sum (as ++ bs) = sum as + sum bs := by
  apply toENNReal_injective
  simp only [toENNReal_add, toENNReal_sum, List.map_append, List.sum_append]

/-- An infinite term makes a sum infinite. -/
lemma sum_eq_infinite {terms : List ENNRat} (h : infinite ∈ terms) : sum terms = infinite := by
  induction terms with
  | nil => cases h
  | cons a terms ih =>
    rw [sum_cons]
    cases h with
    | head => exact infinite_add _
    | tail _ h => rw [ih h, add_infinite]

/-- Zero has nothing above zero. -/
@[simp]
lemma ofPositivePart_zero : ofPositivePart 0 = 0 := by
  apply toENNReal_injective
  rw [toENNReal_ofPositivePart, toENNReal_zero, Rat.cast_zero, ENNReal.ofReal_zero]

/-- A number that is not above zero has nothing above zero. -/
lemma ofPositivePart_of_nonpos {q : Rat} (h : q ≤ 0) : ofPositivePart q = 0 := by
  apply toENNReal_injective
  rw [toENNReal_ofPositivePart, toENNReal_zero, ENNReal.ofReal_of_nonpos (Rat.cast_nonpos.2 h)]

/-- All of a number that is not negative is above zero. -/
lemma ofPositivePart_of_nonneg {q : Rat} (h : 0 ≤ q) : ofPositivePart q = finite q h := by
  simp only [ofPositivePart, Rational.positivePart_of_nonneg h]

/-- The value of the part above zero is that of a number that is not negative. -/
lemma toRat?_ofPositivePart {q : Rat} (h : 0 ≤ q) : (ofPositivePart q).toRat? = some q := by
  rw [ofPositivePart_of_nonneg h, toRat?]

/-- The parts above zero of nonnegative numbers add up. -/
lemma ofPositivePart_add {p q : Rat} (hp : 0 ≤ p) (hq : 0 ≤ q) :
    ofPositivePart (p + q) = ofPositivePart p + ofPositivePart q := by
  apply toENNReal_injective
  rw [toENNReal_add, toENNReal_ofPositivePart, toENNReal_ofPositivePart, toENNReal_ofPositivePart,
    Rat.cast_add]
  exact ENNReal.ofReal_add (Rat.cast_nonneg.2 hp) (Rat.cast_nonneg.2 hq)

end LineMeasure.ENNRat
