import LineMeasure.Value.Operand
import Mathlib.Algebra.Order.Field.Rat
import Mathlib.Order.WithBot
import Mathlib.Tactic.Lemma

/-!
# Comparisons are those of the extended line

Extended numbers and plain ones lie on one line, with minus infinity at its lower end and infinity
at its upper end; a plain number lies there by its exact value, and not-a-number lies nowhere. Only
equality and "below" are asked of an extended number and a plain one (`equalsNumber_eq`,
`isBelowNumber_eq`). These two decide all comparisons, on either side (`decideBy_eq`), which are
therefore those of the line (`comparisons_exact`).
-/

namespace LineMeasure

/-- The rational numbers between minus infinity and infinity. -/
abbrev ExtendedLine := WithBot (WithTop Rat)

namespace ExtendedLine

/-- The place of a rational number. -/
def ofRat (q : Rat) : ExtendedLine :=
  ((q : WithTop Rat) : WithBot (WithTop Rat))

lemma ofRat_lt_ofRat {p q : Rat} : ofRat p < ofRat q ↔ p < q :=
  WithBot.coe_lt_coe.trans WithTop.coe_lt_coe

lemma ofRat_inj {p q : Rat} : ofRat p = ofRat q ↔ p = q :=
  WithBot.coe_inj.trans WithTop.coe_inj

lemma ofRat_lt_top (q : Rat) : ofRat q < ⊤ :=
  WithBot.coe_lt_coe.2 (WithTop.coe_lt_top q)

lemma bot_lt_ofRat (q : Rat) : ⊥ < ofRat q :=
  WithBot.bot_lt_coe _

end ExtendedLine

namespace ENNRat

/-- The place of an extended number. -/
def place : ENNRat → ExtendedLine
  | finite value _ => .ofRat value
  | infinite => ⊤

end ENNRat

namespace Number

/-- The place of a plain number by its exact value; not-a-number has none. -/
def place? : Number → Option ExtendedLine
  | exact q => some (.ofRat q)
  | infinity true => some ⊥
  | infinity false => some ⊤
  | nan => none

end Number

namespace Comparison

/-- What a comparison says in an order. -/
def Holds {α : Type} [LT α] [LE α] : Comparison → α → α → Prop
  | lt, a, b => a < b
  | le, a, b => a ≤ b
  | gt, a, b => b < a
  | ge, a, b => b ≤ a

variable {α : Type} [LinearOrder α] {c : Comparison} {a b : α}

instance : Decidable (c.Holds a b) :=
  match c with
  | lt => inferInstanceAs (Decidable (a < b))
  | le => inferInstanceAs (Decidable (a ≤ b))
  | gt => inferInstanceAs (Decidable (b < a))
  | ge => inferInstanceAs (Decidable (b ≤ a))

/-- With its two sides exchanged a comparison says the same of exchanged numbers. -/
lemma holds_swap : c.swap.Holds a b ↔ c.Holds b a := by
  cases c <;> rfl

/-- "Below" and equality decide every comparison. -/
lemma decideBy_eq : c.decideBy (decide (a < b)) (decide (a = b)) = decide (c.Holds a b) := by
  rw [Bool.eq_iff_iff, decide_eq_true_iff]
  cases c with
  | lt => simp [decideBy, Holds]
  | le => simp [decideBy, Holds, le_iff_lt_or_eq]
  | gt =>
    have above : b < a ↔ ¬ a < b ∧ ¬ a = b :=
      ⟨fun gt => ⟨gt.asymm, gt.ne'⟩, fun ⟨notBelow, ne⟩ => (not_lt.1 notBelow).lt_of_ne' ne⟩
    simp [decideBy, Holds, above]
  | ge => simp [decideBy, Holds]

end Comparison

namespace ENNRat
open ExtendedLine

variable {e : ENNRat} {x : Number} {p : ExtendedLine}

/-- Equality with a plain number is that of the places. -/
lemma equalsNumber_eq (hx : x.place? = some p) : e.equalsNumber x = decide (e.place = p) := by
  rw [Bool.eq_iff_iff, decide_eq_true_iff]
  cases x with
  | exact q =>
    cases hx
    cases e with
    | finite v _ => simp [equalsNumber, toRat?, place, ofRat_inj]
    | infinite => simp [equalsNumber, toRat?, place, (ofRat_lt_top q).ne']
  | infinity negative =>
    cases negative with
    | true =>
      cases hx
      cases e with
      | finite v _ => simp [equalsNumber, place, (bot_lt_ofRat v).ne']
      | infinite => simp [equalsNumber, place]
    | false =>
      cases hx
      cases e with
      | finite v _ => simp [equalsNumber, isInfinite, place, (ofRat_lt_top v).ne]
      | infinite => simp [equalsNumber, isInfinite, place]
  | nan => cases hx

/-- To lie below a plain number is to have the lower place. -/
lemma isBelowNumber_eq (hx : x.place? = some p) :
    e.isBelowNumber x = .ok (decide (e.place < p)) := by
  cases x with
  | exact q =>
    cases hx
    cases e with
    | finite v _ => simp [isBelowNumber, toRat?, place, ofRat_lt_ofRat]
    | infinite => simp [isBelowNumber, toRat?, place]
  | infinity negative =>
    cases negative with
    | true =>
      cases hx
      simp [isBelowNumber]
    | false =>
      cases hx
      cases e with
      | finite v _ => simp [isBelowNumber, isInfinite, place, ofRat_lt_top]
      | infinite => simp [isBelowNumber, isInfinite, place]
  | nan => cases hx

/-- A comparison with a plain number is that of the places. -/
lemma compareNumber_eq (c : Comparison) (hx : x.place? = some p) :
    e.compareNumber c x = .ok (decide (c.Holds e.place p)) := by
  rw [compareNumber, isBelowNumber_eq hx, equalsNumber_eq hx]
  exact congrArg Except.ok Comparison.decideBy_eq

/-- Every comparison with not-a-number is refused, with not-a-number as the reason. -/
lemma compareNumber_nan (c : Comparison) :
    e.compareNumber c .nan = .error (.number "ENNReal value" (.float .nan)) :=
  rfl

end ENNRat

namespace Value

/-- The place of a given integer, rational number or floating point number. Truth values are no
numbers here. -/
def place? : Value → Option ExtendedLine
  | int n => some (.ofRat n)
  | rational q => some (.ofRat q)
  | float x => x.toNumber.place?
  | _ => none

/-- A value that has a place is an operand, and it is a plain number. -/
lemma exists_operand {v : Value} {p : ExtendedLine} (hv : v.place? = some p) :
    ∃ x, v.operand? = some (.number x) ∧ x.place? = some p := by
  cases v with
  | int n => exact ⟨_, rfl, hv⟩
  | rational q => exact ⟨_, rfl, hv⟩
  | float x => exact ⟨_, rfl, hv⟩
  | _ => cases hv

variable {v : Value} {x : Number}

/-- An extended number and a plain one are compared from either side by one rule. -/
lemma compare_plain (e : ENNRat) (c : Comparison) (hv : v.operand? = some (.number x)) :
    Value.compare c (.extended e) v = e.compareNumber c x ∧
      Value.compare c v (.extended e) = e.compareNumber c.swap x := by
  have he : (Value.extended e).operand? = some (.extended e) := rfl
  constructor <;> rw [Value.compare, he, hv]

lemma equals_plain (e : ENNRat) (hv : v.operand? = some (.number x)) :
    Value.equals (.extended e) v = e.equalsNumber x ∧
      Value.equals v (.extended e) = e.equalsNumber x := by
  have he : (Value.extended e).operand? = some (.extended e) := rfl
  constructor <;> rw [Value.equals, he, hv]

end Value

/-- Exactly one of three statements is true. -/
def ExactlyOne (a b c : Prop) : Prop :=
  a ∧ ¬ b ∧ ¬ c ∨ ¬ a ∧ b ∧ ¬ c ∨ ¬ a ∧ ¬ b ∧ c

lemma exactlyOne_order {α : Type} [LinearOrder α] (a b : α) :
    ExactlyOne (a < b) (a = b) (b < a) := by
  rcases lt_trichotomy a b with lt | rfl | gt
  · exact .inl ⟨lt, lt.ne, lt.asymm⟩
  · exact .inr (.inl ⟨lt_irrefl a, rfl, lt_irrefl a⟩)
  · exact .inr (.inr ⟨gt.asymm, gt.ne', gt⟩)

namespace ENNRat

/-- An extended number and a value answer all comparisons, from either side, as if the value were at
the place `p`. -/
structure ComparesAt (e : ENNRat) (v : Value) (p : ExtendedLine) : Prop where
  equal : Value.equals (.extended e) v = decide (e.place = p)
  equal_swap : Value.equals v (.extended e) = decide (p = e.place)
  unequal : (!Value.equals (.extended e) v) = decide (e.place ≠ p)
  unequal_swap : (!Value.equals v (.extended e)) = decide (p ≠ e.place)
  order : ∀ c, Value.compare c (.extended e) v = .ok (decide (c.Holds e.place p))
  order_swap : ∀ c, Value.compare c v (.extended e) = .ok (decide (c.Holds p e.place))
  exactlyOne :
    ExactlyOne (Value.compare .lt (.extended e) v = .ok true) (Value.equals (.extended e) v = true)
    (Value.compare .gt (.extended e) v = .ok true)

/-- An extended number and a value are unequal, and to compare them in the order is an error,
because the value is not-a-number. -/
structure Incomparable (e : ENNRat) (v : Value) : Prop where
  equal : Value.equals (.extended e) v = false
  equal_swap : Value.equals v (.extended e) = false
  unequal : (!Value.equals (.extended e) v) = true
  unequal_swap : (!Value.equals v (.extended e)) = true
  order : ∀ c, Value.compare c (.extended e) v = .error (.number "ENNReal value" (.float .nan))
  order_swap : ∀ c, Value.compare c v (.extended e) = .error (.number "ENNReal value" (.float .nan))

/-- Extended numbers compare with plain ones as their places on the extended line do. -/
theorem comparisons_exact (e : ENNRat) (v : Value) :
    (∀ p, v.place? = some p → e.ComparesAt v p) ∧ (v = .float .nan → e.Incomparable v) := by
  constructor
  · intro p hv
    obtain ⟨x, operand, hx⟩ := Value.exists_operand hv
    have order (c : Comparison) :
        Value.compare c (.extended e) v = .ok (decide (c.Holds e.place p)) := by
      rw [(Value.compare_plain e c operand).1, compareNumber_eq c hx]
    have order_swap (c : Comparison) :
        Value.compare c v (.extended e) = .ok (decide (c.Holds p e.place)) := by
      rw [(Value.compare_plain e c operand).2, compareNumber_eq c.swap hx,
        decide_eq_decide.2 Comparison.holds_swap]
    have equal : Value.equals (.extended e) v = decide (e.place = p) := by
      rw [(Value.equals_plain e operand).1, equalsNumber_eq hx]
    have equal_swap : Value.equals v (.extended e) = decide (p = e.place) := by
      rw [(Value.equals_plain e operand).2, equalsNumber_eq hx, decide_eq_decide]
      exact eq_comm
    have holds (c : Comparison) : Value.compare c (.extended e) v = .ok true ↔
        c.Holds e.place p := by
      rw [order, Except.ok.injEq, decide_eq_true_iff]
    refine ⟨equal, equal_swap, ?_, ?_, order, order_swap, ?_⟩
    · rw [equal, ← decide_not]
    · rw [equal_swap, ← decide_not]
    · rw [holds, holds, equal, decide_eq_true_iff]
      exact exactlyOne_order e.place p
  · rintro rfl
    have operand : (Value.float .nan).operand? = some (.number .nan) := rfl
    have equal := Value.equals_plain e operand
    refine ⟨equal.1, equal.2, congrArg not equal.1, congrArg not equal.2, fun c => ?_, fun c => ?_⟩
    · exact (Value.compare_plain e c operand).1.trans (compareNumber_nan c)
    · exact (Value.compare_plain e c operand).2.trans (compareNumber_nan c.swap)

end ENNRat
end LineMeasure
