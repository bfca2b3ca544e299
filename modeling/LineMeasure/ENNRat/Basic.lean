import LineMeasure.Rational.Basic

/-!
# Extended nonnegative rational numbers

Lengths and measures take values in `[0, ∞]`: a nonnegative rational number or infinity. Infinity
absorbs addition, zero times infinity is zero, and subtraction stops at zero. The order has `0` as
its least element and infinity as its greatest.
-/

namespace LineMeasure

/-- A nonnegative rational number, or infinity. -/
inductive ENNRat where
  | finite (value : Rat) (nonneg : 0 ≤ value)
  | infinite
  deriving DecidableEq

namespace ENNRat

/-- The number as an extended one, unless it is negative. -/
def ofRat? (q : Rat) : Option ENNRat :=
  if nonneg : 0 ≤ q then some (finite q nonneg) else none

/-- The part of a number above zero. -/
def ofPositivePart (q : Rat) : ENNRat :=
  finite (Rational.positivePart q) (Rational.positivePart_nonneg q)

instance : Zero ENNRat := ⟨finite 0 Rat.le_refl⟩

instance : One ENNRat := ⟨finite 1 (by decide)⟩

instance : Inhabited ENNRat := ⟨0⟩

/-- Whether the number is infinity. -/
def isInfinite : ENNRat → Bool
  | finite _ _ => false
  | infinite => true

/-- Whether the number is zero. -/
def isZero : ENNRat → Bool
  | finite value _ => value == 0
  | infinite => false

/-- The value of a finite number. -/
def toRat? : ENNRat → Option Rat
  | finite value _ => some value
  | infinite => none

/-- The finite part: the value of a finite number, and zero for infinity. -/
def finitePart (a : ENNRat) : Rat :=
  a.toRat?.getD 0

/-- The sum; infinity absorbs. -/
def add : ENNRat → ENNRat → ENNRat
  | finite a ha, finite b hb => finite (a + b) (Rat.add_nonneg ha hb)
  | _, _ => infinite

/-- The product; zero absorbs, also beside infinity. -/
def mul (a b : ENNRat) : ENNRat :=
  if a.isZero || b.isZero then 0
  else
    match a, b with
    | finite a ha, finite b hb => finite (a * b) (Rat.mul_nonneg ha hb)
    | _, _ => infinite

/-- The difference, which stops at zero; infinity less a finite number is infinity. -/
def sub : ENNRat → ENNRat → ENNRat
  | _, infinite => 0
  | infinite, finite _ _ => infinite
  | finite a _, finite b _ => ofPositivePart (a - b)

instance : Add ENNRat := ⟨add⟩

instance : Mul ENNRat := ⟨mul⟩

instance : Sub ENNRat := ⟨sub⟩

/-- The order: that of the values, with infinity on top. -/
def le : ENNRat → ENNRat → Prop
  | _, infinite => True
  | infinite, finite _ _ => False
  | finite a _, finite b _ => a ≤ b

/-- The strict order. -/
def lt : ENNRat → ENNRat → Prop
  | infinite, _ => False
  | finite _ _, infinite => True
  | finite a _, finite b _ => a < b

instance : LE ENNRat := ⟨le⟩

instance : LT ENNRat := ⟨lt⟩

instance decidableLe : (a b : ENNRat) → Decidable (a ≤ b)
  | _, infinite => .isTrue (by simp [LE.le, le])
  | infinite, finite _ _ => .isFalse (by simp [LE.le, le])
  | finite a _, finite b _ => inferInstanceAs (Decidable (a ≤ b))

instance decidableLt : (a b : ENNRat) → Decidable (a < b)
  | infinite, _ => .isFalse (by simp [LT.lt, lt])
  | finite _ _, infinite => .isTrue (by simp [LT.lt, lt])
  | finite a _, finite b _ => inferInstanceAs (Decidable (a < b))

@[simp]
theorem finite_le_finite {a b : Rat} {ha : 0 ≤ a} {hb : 0 ≤ b} :
    finite a ha ≤ finite b hb ↔ a ≤ b :=
  Iff.rfl

@[simp]
theorem le_infinite (a : ENNRat) : a ≤ infinite := by
  cases a <;> trivial

@[simp]
theorem finite_lt_finite {a b : Rat} {ha : 0 ≤ a} {hb : 0 ≤ b} :
    finite a ha < finite b hb ↔ a < b :=
  Iff.rfl

@[simp]
theorem finite_lt_infinite {a : Rat} {ha : 0 ≤ a} : finite a ha < infinite :=
  trivial

@[simp]
theorem finite_add_finite {a b : Rat} {ha : 0 ≤ a} {hb : 0 ≤ b} :
    finite a ha + finite b hb = finite (a + b) (Rat.add_nonneg ha hb) :=
  rfl

@[simp]
theorem infinite_add (a : ENNRat) : infinite + a = infinite := by
  cases a <;> rfl

@[simp]
theorem add_infinite (a : ENNRat) : a + infinite = infinite := by
  cases a <;> rfl

/-- The larger of two numbers; the first one unless the second is strictly above it. -/
def larger (a b : ENNRat) : ENNRat :=
  if a < b then b else a

/-- The smaller of two numbers; the first one unless the second is strictly below it. -/
def smaller (a b : ENNRat) : ENNRat :=
  if b < a then b else a

/-- The text of a number: `inf`, or that of its value. -/
def text : ENNRat → String
  | finite value _ => Rational.text value
  | infinite => "inf"

/-- How a number is shown inside a message. -/
def display (a : ENNRat) : String :=
  "ENNReal(" ++ a.text ++ ")"

end ENNRat
end LineMeasure
