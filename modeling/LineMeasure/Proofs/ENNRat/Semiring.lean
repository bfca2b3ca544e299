import LineMeasure.Proofs.ENNRat.Embedding
import LineMeasure.Value.Operand
import Mathlib.Data.ENNReal.Operations

/-!
# Extended numbers are an ordered commutative semiring

Products and differences keep their places among the extended nonnegative real numbers as well,
where zero times infinity is zero and a difference stops at zero by the same conventions. So the
laws of those numbers are laws of extended rational ones: a commutative semiring in which both
operations keep a total order, with the difference as the least number that makes up for what is
missing. No operation fails, and on finite numbers each is that of the values.
-/

namespace LineMeasure.ENNRat
open scoped ENNReal

variable {a b : ENNRat}

@[simp]
lemma toENNReal_one : (1 : ENNRat).toENNReal = 1 := by
  change ENNReal.ofReal ((1 : Rat) : ℝ) = 1
  simp

@[simp]
lemma isZero_iff : a.isZero = true ↔ a = 0 := by
  cases a with
  | infinite => exact iff_of_false Bool.false_ne_true fun h => by cases h
  | finite p hp =>
    change (p == 0) = true ↔ finite p hp = finite 0 _
    simp

@[simp]
lemma toENNReal_eq_zero : a.toENNReal = 0 ↔ a = 0 := by
  rw [← toENNReal_zero, toENNReal_injective.eq_iff]

/-- The product of finite numbers is that of their values, also when one of them is zero. -/
@[simp]
lemma finite_mul_finite {p q : Rat} {hp : 0 ≤ p} {hq : 0 ≤ q} :
    finite p hp * finite q hq = finite (p * q) (Rat.mul_nonneg hp hq) := by
  change (if (p == 0) || (q == 0) then (0 : ENNRat) else finite (p * q) (Rat.mul_nonneg hp hq)) = _
  split_ifs with zero
  · have nothing : p * q = 0 := by simpa using zero
    simp only [nothing]
    rfl
  · rfl

lemma zero_mul_infinite : 0 * infinite = 0 :=
  rfl

lemma infinite_mul_zero : infinite * 0 = 0 :=
  rfl

/-- Infinity absorbs all other numbers. -/
lemma infinite_mul (h : a ≠ 0) : infinite * a = infinite := by
  have nonzero : a.isZero = false := Bool.eq_false_of_not_eq_true (isZero_iff.not.2 h)
  change mul infinite a = infinite
  unfold mul
  rw [nonzero]
  cases a <;> rfl

lemma mul_infinite (h : a ≠ 0) : a * infinite = infinite := by
  have nonzero : a.isZero = false := Bool.eq_false_of_not_eq_true (isZero_iff.not.2 h)
  change mul a infinite = infinite
  unfold mul
  rw [nonzero]
  cases a <;> rfl

@[simp]
lemma toENNReal_mul (a b : ENNRat) : (a * b).toENNReal = a.toENNReal * b.toENNReal := by
  cases a with
  | finite p hp =>
    cases b with
    | finite q hq =>
      rw [finite_mul_finite, toENNReal_finite, toENNReal_finite, toENNReal_finite, Rat.cast_mul]
      exact ENNReal.ofReal_mul (Rat.cast_nonneg.2 hp)
    | infinite =>
      by_cases zero : finite p hp = 0
      · rw [zero, zero_mul_infinite, toENNReal_zero, zero_mul]
      · rw [mul_infinite zero, toENNReal_infinite, ENNReal.mul_top (toENNReal_eq_zero.not.2 zero)]
  | infinite =>
    by_cases zero : b = 0
    · rw [zero, infinite_mul_zero, toENNReal_zero, mul_zero]
    · rw [infinite_mul zero, toENNReal_infinite, ENNReal.top_mul (toENNReal_eq_zero.not.2 zero)]

/-- The difference has the place of the difference, which stops at zero. -/
@[simp]
lemma toENNReal_sub (a b : ENNRat) : (a - b).toENNReal = a.toENNReal - b.toENNReal := by
  cases b with
  | infinite =>
    have nothing : a - infinite = 0 := by cases a <;> rfl
    rw [nothing, toENNReal_infinite, toENNReal_zero, ENNReal.sub_top]
  | finite q hq =>
    cases a with
    | infinite => exact (ENNReal.top_sub ENNReal.ofReal_ne_top).symm
    | finite p hp =>
      change (ofPositivePart (p - q)).toENNReal = _
      rw [toENNReal_ofPositivePart, toENNReal_finite, toENNReal_finite, Rat.cast_sub]
      exact ENNReal.ofReal_sub _ (Rat.cast_nonneg.2 hq)

/-- A number leaves nothing of itself, and infinity neither. -/
protected lemma sub_self (a : ENNRat) : a - a = 0 := by
  apply toENNReal_injective
  rw [toENNReal_sub, tsub_self, toENNReal_zero]

/-- A finite number may be taken away on both sides. -/
lemma add_left_cancel {c : ENNRat} (finite : a ≠ infinite) (h : a + b = a + c) : b = c := by
  have placed : a.toENNReal ≠ ⊤ := toENNReal_injective.ne finite
  apply toENNReal_injective
  rw [← ENNReal.add_right_inj placed, ← toENNReal_add, ← toENNReal_add, h]

lemma ne_infinite_of_add (finite : a + b ≠ infinite) : a ≠ infinite ∧ b ≠ infinite := by
  refine ⟨fun h => finite ?_, fun h => finite ?_⟩
  · rw [h, infinite_add]
  · rw [h, add_infinite]

/-- The product is commutative and associative, and distributes over the sum. -/
instance : CommSemiring ENNRat where
  __ := (inferInstance : AddCommMonoid ENNRat)
  mul_assoc a b c := by
    apply toENNReal_injective
    simp only [toENNReal_mul]
    exact mul_assoc _ _ _
  mul_comm a b := by
    apply toENNReal_injective
    simp only [toENNReal_mul]
    exact mul_comm _ _
  one_mul a := by
    apply toENNReal_injective
    rw [toENNReal_mul, toENNReal_one, one_mul]
  mul_one a := by
    apply toENNReal_injective
    rw [toENNReal_mul, toENNReal_one, mul_one]
  zero_mul a := by
    apply toENNReal_injective
    rw [toENNReal_mul, toENNReal_zero, zero_mul]
  mul_zero a := by
    apply toENNReal_injective
    rw [toENNReal_mul, toENNReal_zero, mul_zero]
  left_distrib a b c := by
    apply toENNReal_injective
    simp only [toENNReal_mul, toENNReal_add]
    exact mul_add _ _ _
  right_distrib a b c := by
    apply toENNReal_injective
    simp only [toENNReal_mul, toENNReal_add]
    exact add_mul _ _ _

/-- Any two extended numbers are in order one way or the other. -/
instance : LinearOrder ENNRat where
  __ := (inferInstance : PartialOrder ENNRat)
  le_total a b := by
    rw [← toENNReal_le, ← toENNReal_le]
    exact le_total _ _
  toDecidableLE := decidableLe
  toDecidableLT := decidableLt
  toDecidableEq := inferInstance

/-- Multiplying on both sides keeps the order. -/
instance : IsOrderedRing ENNRat where
  __ := (inferInstance : IsOrderedAddMonoid ENNRat)
  zero_le_one := nonneg 1
  mul_le_mul_of_nonneg_left c hc a b h := by
    rw [← toENNReal_le, toENNReal_mul, toENNReal_mul]
    exact mul_le_mul_right (toENNReal_le.2 h) _
  mul_le_mul_of_nonneg_right c hc a b h := by
    rw [← toENNReal_le, toENNReal_mul, toENNReal_mul]
    exact mul_le_mul_left (toENNReal_le.2 h) _

/-- A difference is the least number that makes up for what is missing. -/
instance : OrderedSub ENNRat where
  tsub_le_iff_right a b c := by
    rw [← toENNReal_le, ← toENNReal_le, toENNReal_sub, toENNReal_add]
    exact tsub_le_iff_right

/-- The comparison of two extended numbers, by what is below and what is equal, is the order. -/
lemma compare_le (a b : ENNRat) : a.compare .le b = decide (a ≤ b) := by
  change (decide (a < b) || decide (a = b)) = decide (a ≤ b)
  rw [Bool.eq_iff_iff]
  simp [le_iff_lt_or_eq]

lemma ofRat_of_nonneg {q : Rat} (h : 0 ≤ q) : ofRat q = .ok (finite q h) := by
  unfold ofRat Value.extendedOfRat ofRat?
  rw [dif_pos h]
  rfl

/-- Results from finite numbers are those of their values, and accepted as extended numbers. -/
lemma ofRat_results {p q : Rat} (hp : a.toRat? = some p) (hq : b.toRat? = some q) :
    ofRat (p + q) = .ok (a + b) ∧ ofRat (p * q) = .ok (a * b) ∧
      ofRat (max 0 (p - q)) = .ok (a - b) := by
  cases a with
  | infinite => cases hp
  | finite p' hp' =>
    cases b with
    | infinite => cases hq
    | finite q' hq' =>
      cases hp
      cases hq
      rw [finite_mul_finite, finite_add_finite]
      exact ⟨ofRat_of_nonneg _, ofRat_of_nonneg _, ofRat_of_nonneg (le_max_left 0 _)⟩

/-- The value of a number is not negative, and infinity has none of its own. -/
lemma finitePart_valid (a : ENNRat) :
    0 ≤ a.finitePart ∧ (a.isInfinite = true → a.finitePart = 0) := by
  cases a with
  | finite p hp => exact ⟨hp, fun h => by cases h⟩
  | infinite => exact ⟨le_rfl, fun _ => rfl⟩

/-- Extended numbers are an ordered commutative semiring with a difference that stops at zero. -/
theorem orderedSemiring_laws (a b c d : ENNRat) :
    (Value.add (.extended a) (.extended b) = .ok (a + b) ∧
      Value.mul (.extended a) (.extended b) = .ok (a * b) ∧
      Value.sub (.extended a) (.extended b) = .ok (a - b) ∧
      Value.compare .le (.extended a) (.extended b) = .ok (decide (a ≤ b))) ∧
    (∀ p ∈ a.toRat?, ∀ q ∈ b.toRat?,
      ofRat (p + q) = .ok (a + b) ∧ ofRat (p * q) = .ok (a * b) ∧
        ofRat (max 0 (p - q)) = .ok (a - b)) ∧
    (∀ r ∈ [a + b, a * b, a - b], 0 ≤ r.finitePart ∧ (r.isInfinite = true → r.finitePart = 0)) ∧
    (a + b + c = a + (b + c) ∧ a + b = b + a ∧ 0 + a = a) ∧
    (a * b * c = a * (b * c) ∧ a * b = b * a ∧ 1 * a = a) ∧
    (a * (b + c) = a * b + a * c ∧ 0 * infinite = 0) ∧
    ((a ≤ b ∨ b ≤ a) ∧ (a ≤ b → b ≤ a → a = b) ∧ (a ≤ b → b ≤ c → a ≤ c) ∧ 0 ≤ a ∧ a ≤ infinite) ∧
    (a ≤ b → c ≤ d → a + c ≤ b + d ∧ a * c ≤ b * d) ∧
    (a - b ≤ c ↔ a ≤ c + b) := by
  refine ⟨⟨rfl, rfl, rfl, ?_⟩, fun p hp q hq => ofRat_results hp hq, fun r _ => finitePart_valid r,
    ?_, ?_, ?_, ?_, ?_, ?_⟩
  · exact congrArg Except.ok (compare_le a b)
  · exact ⟨add_assoc a b c, add_comm a b, zero_add a⟩
  · exact ⟨mul_assoc a b c, mul_comm a b, one_mul a⟩
  · exact ⟨mul_add a b c, zero_mul_infinite⟩
  · exact ⟨le_total a b, le_antisymm, le_trans, nonneg a, le_infinite a⟩
  · intro ab cd
    exact ⟨add_le_add ab cd, mul_le_mul ab cd (nonneg c) (nonneg b)⟩
  · exact tsub_le_iff_right

end LineMeasure.ENNRat
