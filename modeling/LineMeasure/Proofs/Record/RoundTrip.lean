import LineMeasure.Proofs.Rational.RoundTrip
import LineMeasure.Proofs.RealSet.Canonical
import LineMeasure.Record.RealSet

/-!
# Intervals and sets read back from their records

The record of an interval is read as that interval (`Interval.ofJson_toJson`), whatever its ends and
flags are, and the record of a set as that set (`RealSet.ofJson_toJson`). For a set the pieces are
brought into normal form again when they are read, which changes nothing, since they are in normal
form.
-/

namespace LineMeasure

namespace Interval

/-- An end is read back from its place in a record. -/
lemma toEnd_endToJson (e : Option Bound) :
    (Value.ofJson (endToJson e)).toEnd = .ok (e.map (·.point)) := by
  cases e with
  | none => rfl
  | some b =>
    simp only [endToJson, Option.elim_some, Value.ofJson, Value.toEnd, Value.toRat,
      Rational.ofText?_text, Option.map_some]

/-- A flag is read back, since it closes no infinite end. -/
lemma readFlag_any (side : Side) (e : Option Bound) :
    IntervalRecord.readFlag side (.ok (e.map (·.point))) (some (.bool (e.any (·.closed)))) =
      .ok (e.any (·.closed)) := by
  cases e with
  | none => rfl
  | some b =>
    obtain ⟨p, closed⟩ := b
    cases closed <;> rfl

/-- The point and the flag of an end make up the end. -/
lemma boundOf_map (e : Option Bound) :
    IntervalRecord.boundOf (e.map (·.point)) (e.any (·.closed)) = e := by
  cases e <;> rfl

/-- The record of an interval is read as that interval. -/
theorem ofJson_toJson (origin : Origin) (i : Interval) : ofJson origin i.toJson = .ok i := by
  have record : ofJson origin i.toJson = IntervalRecord.toInterval
      ⟨Value.ofJson (endToJson i.lower), Value.ofJson (endToJson i.upper),
        some (.bool i.leftClosed), some (.bool i.rightClosed)⟩ := rfl
  rw [record]
  simp only [IntervalRecord.toInterval, toEnd_endToJson, leftClosed, rightClosed, readFlag_any,
    boundOf_map]

end Interval

namespace RealSet

/-- The records of intervals are read as these intervals. -/
lemma readComponents_map (origin : Origin) (index : Nat) (cs : List Interval) :
    readComponents origin index ((cs.map Interval.toJson).map RawInterval.ofJson) = .ok cs := by
  have read (c : Interval) : (RawInterval.ofJson c.toJson).toInterval origin = .ok c :=
    c.ofJson_toJson origin
  induction cs generalizing index with
  | nil => rfl
  | cons c cs ih => simp only [List.map_cons, readComponents, read, ih]

/-- The record of a set is read as that set. -/
theorem ofJson_toJson (origin : Origin) (s : RealSet) : ofJson origin s.toJson = .ok s := by
  have field :
      Json.field? "components" [("components", .array (s.components.map Interval.toJson))] =
        some (.array (s.components.map Interval.toJson)) := rfl
  simp only [toJson, ofJson, field, ofRaw, readComponents_map, Except.map, ofIntervals_components]

end RealSet
end LineMeasure
