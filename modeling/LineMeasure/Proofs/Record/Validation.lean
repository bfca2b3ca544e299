import LineMeasure.Record.RealSet
import Mathlib.Data.List.Basic
import Mathlib.Data.List.Forall2
import Mathlib.Tactic.Lemma

/-!
# Records are accepted exactly when they are well formed

Which fields of a record are faulty, and why, is said by rules (`Offends`): an end that is no
number, a flag that is not clear, and a flag that closes an infinite end. What the reader finds in a
field is what the rules say of it (`faultAt?_eq_some_iff`), so that it accepts well-formed records
and reports each faulty field of any other record once, in order. Pieces of a set are read one after
the other, and what is found in one of them does not depend on the others (`readComponents_cases`).
-/

namespace LineMeasure

/-- A field of the record of an interval. -/
inductive IntervalField where
  | endpoint (side : Side)
  | flag (side : Side)
  deriving DecidableEq

namespace IntervalField

/-- The fields in the order in which they are checked. -/
def all : List IntervalField :=
  [endpoint .left, endpoint .right, flag .left, flag .right]

lemma mem_all (f : IntervalField) : f ∈ all := by
  rcases f with (_ | _) | (_ | _) <;> simp [all]

/-- The name of a field. -/
def name : IntervalField → String
  | endpoint .left => "left"
  | endpoint .right => "right"
  | flag .left => "left_closed"
  | flag .right => "right_closed"

end IntervalField

namespace IntervalRecord
open IntervalField

variable (fields : List (String × Value))

/-- The end of a side is absent or null. -/
def IsInfinite (side : Side) : Prop :=
  fields.lookup (endpoint side).name = none ∨ fields.lookup (endpoint side).name = some .null

/-- Each end is absent, null or a number, each flag that is given is clear, and no true flag stands
at an infinite end. -/
structure WellFormed : Prop where
  ends : ∀ side v, fields.lookup (endpoint side).name = some v → v = .null ∨ ∃ q, v.toRat = .ok q
  flags : ∀ side v, fields.lookup (flag side).name = some v → ∃ b, v.toFlag = .ok b
  finite :
    ∀ side v, fields.lookup (flag side).name = some v → v.toFlag = .ok true →
      ¬ IsInfinite fields side

/-- What is wrong with a field. An end that is no number is not infinite, so that its flag is only
asked to be clear. -/
inductive Offends : IntervalField → FieldFault → Prop where
  | endpoint {side v fault} :
    fields.lookup (IntervalField.endpoint side).name = some v →
    v ≠ .null →
    v.toRat = .error fault →
    Offends (.endpoint side) (.endpoint fault)
  | flag {side v fault} :
    fields.lookup (IntervalField.flag side).name = some v →
    v.toFlag = .error fault →
    Offends (.flag side) fault
  | infinite {side v} :
    fields.lookup (IntervalField.flag side).name = some v →
    v.toFlag = .ok true →
    IsInfinite fields side →
    Offends (.flag side) (.infiniteClosed side)

/-- The faults are one entry for each faulty field, in the order of the fields. -/
def Reports (faults : List RecordFault) : Prop :=
  ∃ offending : List IntervalField, offending.Sublist all ∧
    (∀ f, f ∈ offending ↔ ∃ fault, Offends fields f fault) ∧
    List.Forall₂ (fun f entry => ∃ fault, Offends fields f fault ∧ entry = .ofField f.name fault)
      offending faults

/-- The end of an interval is the one that the fields describe. -/
inductive Describes (side : Side) : Option Bound → Prop where
  | infinite :
    IsInfinite fields side →
    Describes side none
  | unmarked {v q} :
    fields.lookup (endpoint side).name = some v →
    v.toRat = .ok q →
    fields.lookup (flag side).name = none →
    Describes side (some ⟨q, false⟩)
  | marked {v q w closed} :
    fields.lookup (endpoint side).name = some v →
    v.toRat = .ok q →
    fields.lookup (flag side).name = some w →
    w.toFlag = .ok closed →
    Describes side (some ⟨q, closed⟩)

end IntervalRecord

namespace Value
variable {v : Value}

lemma toEnd_of_ne_null (h : v ≠ .null) : v.toEnd =
    match v.toRat with
    | .ok q => .ok (some q)
    | .error cause => .error (.endpoint cause) := by
  cases v with
  | null => exact absurd rfl h
  | _ => rfl

/-- Only null stands for an infinite end. -/
lemma toEnd_eq_none_iff : v.toEnd = .ok none ↔ v = .null := by
  by_cases h : v = .null
  · exact iff_of_true (h ▸ rfl) h
  · rw [toEnd_of_ne_null h]
    cases v.toRat <;> simp [h]

/-- A number stands for a finite end. -/
lemma toEnd_eq_some_iff {q : Rat} : v.toEnd = .ok (some q) ↔ v.toRat = .ok q := by
  by_cases h : v = .null
  · simp [h, toEnd, toRat]
  · rw [toEnd_of_ne_null h]
    cases v.toRat <;> simp

/-- What is neither null nor a number stands for no end. -/
lemma toEnd_eq_error_iff {fault : FieldFault} :
    v.toEnd = .error fault ↔
      v ≠ .null ∧ ∃ cause, v.toRat = .error cause ∧ fault = .endpoint cause := by
  by_cases h : v = .null
  · simp [h, toEnd]
  · rw [toEnd_of_ne_null h]
    cases v.toRat <;> simp [h, eq_comm]

end Value

namespace IntervalRecord
open IntervalField

/-- What is read of the end of a side. -/
def readEnd (fields : List (String × Value)) (side : Side) : Except FieldFault (Option Rat) :=
  ((fields.lookup (endpoint side).name).getD .null).toEnd

/-- What is read of the flag of a side. -/
def readFlagOf (fields : List (String × Value)) (side : Side) : Except FieldFault Bool :=
  readFlag side (readEnd fields side) (fields.lookup (flag side).name)

/-- The fault that reading ends in, if it does. -/
def faultIn {α : Type} : Except FieldFault α → Option FieldFault
  | .ok _ => none
  | .error fault => some fault

/-- The fault that is found in a field. -/
def faultAt? (fields : List (String × Value)) : IntervalField → Option FieldFault
  | endpoint side => faultIn (readEnd fields side)
  | flag side => faultIn (readFlagOf fields side)

variable {fields : List (String × Value)} {side : Side} {fault : FieldFault}

lemma readEnd_eq_none_iff : readEnd fields side = .ok none ↔ IsInfinite fields side := by
  unfold readEnd IsInfinite
  cases fields.lookup (endpoint side).name <;> simp [Value.toEnd_eq_none_iff]

lemma readEnd_eq_some_iff {q : Rat} :
    readEnd fields side = .ok (some q) ↔
      ∃ v, fields.lookup (endpoint side).name = some v ∧ v.toRat = .ok q := by
  unfold readEnd
  cases fields.lookup (endpoint side).name <;> simp [Value.toEnd_eq_some_iff, Value.toRat]

lemma readEnd_eq_error_iff : readEnd fields side = .error fault ↔
    ∃ v cause, fields.lookup (endpoint side).name = some v ∧ v ≠ .null ∧ v.toRat = .error cause ∧
      fault = .endpoint cause := by
  unfold readEnd
  cases fields.lookup (endpoint side).name <;> simp [Value.toEnd_eq_error_iff]

/-- A flag that does not close an infinite end is read by itself. -/
lemma readFlagOf_of_not {v : Value} (given : fields.lookup (flag side).name = some v)
    (free : ¬ (v.toFlag = .ok true ∧ IsInfinite fields side)) :
    readFlagOf fields side = v.toFlag := by
  rw [readFlagOf, given, readFlag]
  exact fun clear infinite => free ⟨clear, readEnd_eq_none_iff.1 infinite⟩

lemma readFlagOf_of_infinite {v : Value} (given : fields.lookup (flag side).name = some v)
    (clear : v.toFlag = .ok true) (infinite : IsInfinite fields side) :
    readFlagOf fields side = .error (.infiniteClosed side) := by
  simp only [readFlagOf, given, readFlag, clear, readEnd_eq_none_iff.2 infinite]

lemma readFlagOf_of_absent (absent : fields.lookup (flag side).name = none) :
    readFlagOf fields side = .ok false := by
  rw [readFlagOf, absent, readFlag]

lemma readFlagOf_eq_error_iff : readFlagOf fields side = .error fault ↔
    Offends fields (.flag side) fault := by
  constructor
  · intro faulty
    cases given : fields.lookup (flag side).name with
    | none =>
      rw [readFlagOf_of_absent given] at faulty
      cases faulty
    | some v =>
      by_cases closes : v.toFlag = .ok true ∧ IsInfinite fields side
      · rw [readFlagOf_of_infinite given closes.1 closes.2] at faulty
        cases faulty
        exact .infinite given closes.1 closes.2
      · rw [readFlagOf_of_not given closes] at faulty
        exact .flag given faulty
  · rintro (_ | ⟨given, unclear⟩ | ⟨given, clear, infinite⟩)
    · rw [readFlagOf_of_not given (by simp [unclear]), unclear]
    · exact readFlagOf_of_infinite given clear infinite

/-- What is found in a field is what the rules say of it. -/
lemma faultAt?_eq_some_iff {f : IntervalField} :
    faultAt? fields f = some fault ↔ Offends fields f fault := by
  have found {α : Type} (x : Except FieldFault α) : faultIn x = some fault ↔ x = .error fault := by
    cases x <;> simp [faultIn]
  cases f with
  | flag side => rw [faultAt?, found, readFlagOf_eq_error_iff]
  | endpoint side =>
    rw [faultAt?, found, readEnd_eq_error_iff]
    constructor
    · rintro ⟨v, cause, given, notNull, unread, rfl⟩
      exact .endpoint given notNull unread
    · rintro ⟨given, notNull, unread⟩
      exact ⟨_, _, given, notNull, unread, rfl⟩

lemma faultAt?_eq_none_iff {f : IntervalField} :
    faultAt? fields f = none ↔ ∀ fault, ¬ Offends fields f fault := by
  simp only [← faultAt?_eq_some_iff, Option.eq_none_iff_forall_ne_some, ne_eq]

/-- A record is well formed when none of its fields is faulty. -/
lemma wellFormed_iff : WellFormed fields ↔ ∀ f fault, ¬ Offends fields f fault := by
  constructor
  · rintro wellFormed f fault
      (⟨given, notNull, unread⟩ | ⟨given, unclear⟩ | ⟨given, clear, infinite⟩)
    · rcases wellFormed.ends _ _ given with null | ⟨q, read⟩
      · exact notNull null
      · rw [read] at unread
        cases unread
    · obtain ⟨b, clear⟩ := wellFormed.flags _ _ given
      rw [clear] at unclear
      cases unclear
    · exact wellFormed.finite _ _ given clear infinite
  · intro sound
    refine ⟨fun side v given => ?_, fun side v given => ?_, fun side v given clear infinite => ?_⟩
    · by_cases null : v = .null
      · exact .inl null
      · cases read : v.toRat with
        | ok q => exact .inr ⟨q, rfl⟩
        | error cause => exact absurd (.endpoint given null read) (sound _ _)
    · cases clear : v.toFlag with
      | ok b => exact ⟨b, rfl⟩
      | error fault => exact absurd (.flag given clear) (sound _ _)
    · exact sound _ _ (.infinite given clear infinite)

/-- The end that is made of what was read of a side is the one that the fields describe. -/
lemma describes_boundOf {point : Option Rat} {closed : Bool}
    (readPoint : readEnd fields side = .ok point)
    (readClosed : readFlagOf fields side = .ok closed) :
    Describes fields side (boundOf point closed) := by
  cases point with
  | none => exact .infinite (readEnd_eq_none_iff.1 readPoint)
  | some q =>
    obtain ⟨v, given, read⟩ := readEnd_eq_some_iff.1 readPoint
    cases flagged : fields.lookup (flag side).name with
    | none =>
      rw [readFlagOf_of_absent flagged] at readClosed
      cases readClosed
      exact .unmarked given read flagged
    | some w =>
      -- a finite end is not infinite, so that its flag is read by itself
      have finite : ¬ (w.toFlag = .ok true ∧ IsInfinite fields side) := by
        rintro ⟨-, infinite⟩
        rw [readEnd_eq_none_iff.2 infinite] at readPoint
        cases readPoint
      exact .marked given read flagged (readFlagOf_of_not flagged finite ▸ readClosed)

/-- Reading a record ends in an interval, when nothing is wrong with any field, and otherwise in
what is wrong. -/
lemma toInterval_ofFields (fields : List (String × Value)) :
    ((∀ f, faultAt? fields f = none) ∧ ∃ i, (ofFields fields).toInterval = .ok i ∧
        Describes fields .left i.lower ∧ Describes fields .right i.upper) ∨
      ((∃ f, faultAt? fields f ≠ none) ∧ (ofFields fields).toInterval =
        .error (all.filterMap fun f => (faultAt? fields f).map (.ofField f.name))) := by
  have entries {α : Type} (name : String) (x : Except FieldFault α) :
      faultOf name x = ((faultIn x).map (.ofField name)).toList := by cases x <;> rfl
  have leftEnd : (ofFields fields).left.toEnd = readEnd fields .left := rfl
  have rightEnd : (ofFields fields).right.toEnd = readEnd fields .right := rfl
  have leftFlag :
      readFlag .left (readEnd fields .left) (ofFields fields).leftClosed =
        readFlagOf fields .left := rfl
  have rightFlag :
      readFlag .right (readEnd fields .right) (ofFields fields).rightClosed =
        readFlagOf fields .right := rfl
  simp only [IntervalRecord.toInterval, leftEnd, rightEnd, leftFlag, rightFlag]
  split
  · rename_i left right leftClosed rightClosed
    refine .inl ⟨?_, _, rfl, describes_boundOf left leftClosed, describes_boundOf right rightClosed⟩
    rintro ((_ | _) | (_ | _)) <;> simp [faultAt?, left, right, leftClosed, rightClosed, faultIn]
  · rename_i notAll
    refine .inr ⟨?_, ?_⟩
    · by_contra sound
      have success {α : Type} {x : Except FieldFault α} (h : faultIn x = none) :
          ∃ a, x = .ok a := by
        cases x with
        | ok a => exact ⟨a, rfl⟩
        | error fault => cases h
      have none_found (f : IntervalField) : faultAt? fields f = none := by
        by_contra found
        exact sound ⟨f, found⟩
      obtain ⟨left, readLeft⟩ := success (none_found (endpoint .left))
      obtain ⟨right, readRight⟩ := success (none_found (endpoint .right))
      obtain ⟨leftClosed, readLeftClosed⟩ := success (none_found (flag .left))
      obtain ⟨rightClosed, readRightClosed⟩ := success (none_found (flag .right))
      exact notAll _ _ _ _ readLeft readRight readLeftClosed readRightClosed
    · rw [List.filterMap_eq_flatMap_toList]
      simp [all, entries, faultAt?, name]

/-- Where a function is defined, its argument and its value are related. -/
lemma forall₂_filterMap {α β : Type} {R : α → β → Prop} {g : α → Option β}
    (h : ∀ a b, g a = some b → R a b)
    (l : List α) : List.Forall₂ R (l.filter fun a => (g a).isSome) (l.filterMap g) := by
  induction l with
  | nil => exact .nil
  | cons a l ih =>
    cases hg : g a with
    | none => simpa [hg] using ih
    | some b => simpa [hg] using ⟨h a b hg, ih⟩

/-- The faults that are found are those of the faulty fields. -/
lemma reports_filterMap (fields : List (String × Value)) :
    Reports fields (all.filterMap fun f => (faultAt? fields f).map (.ofField f.name)) := by
  refine ⟨_, List.filter_sublist, fun f => ?_, forall₂_filterMap (fun f entry eq => ?_) all⟩
  · simp only [List.mem_filter, mem_all, true_and, Option.isSome_map, Option.isSome_iff_exists,
      faultAt?_eq_some_iff]
  · obtain ⟨fault, found, rfl⟩ := Option.map_eq_some_iff.1 eq
    exact ⟨fault, faultAt?_eq_some_iff.1 found, rfl⟩

/-- A record is read as an interval exactly when it is well formed. -/
lemma exists_toInterval_iff (fields : List (String × Value)) :
    (∃ i, (ofFields fields).toInterval = .ok i) ↔ WellFormed fields := by
  rw [wellFormed_iff]
  simp only [← faultAt?_eq_none_iff]
  rcases toInterval_ofFields fields with ⟨sound, i, eq, -⟩ | ⟨⟨f, found⟩, eq⟩
  · exact iff_of_true ⟨i, eq⟩ sound
  · refine iff_of_false ?_ fun sound => found (sound f)
    rintro ⟨i, read⟩
    rw [eq] at read
    cases read

/-- The interval that is read has the ends that the fields describe. -/
lemma describes_of_toInterval {i : Interval} (read : (ofFields fields).toInterval = .ok i) :
    Describes fields .left i.lower ∧ Describes fields .right i.upper := by
  rcases toInterval_ofFields fields with ⟨-, j, eq, described⟩ | ⟨-, eq⟩
  · rw [eq] at read
    cases read
    exact described
  · rw [eq] at read
    cases read

/-- Of a record that is refused the faulty fields are reported. -/
lemma reports_of_toInterval {faults : List RecordFault}
    (refused : (ofFields fields).toInterval = .error faults) :
    Reports fields faults := by
  rcases toInterval_ofFields fields with ⟨-, j, eq, -⟩ | ⟨-, eq⟩
  · rw [eq] at refused
    cases refused
  · rw [eq] at refused
    cases refused
    exact reports_filterMap fields

end IntervalRecord

namespace RawInterval

/-- All faults of what is given for an interval. -/
def faults (origin : Origin) (raw : RawInterval) : List RecordFault :=
  match raw.toInterval origin with
  | .ok _ => []
  | .error faults => faults

end RawInterval

namespace RealSet

variable {origin : Origin} {pieces : List RawInterval}

/-- The faults of all pieces in order, each with the index of its piece, which begins at `start`. -/
def faultsFrom (origin : Origin) (start : Nat) (pieces : List RawInterval) : List RecordFault :=
  (pieces.zipIdx start).flatMap fun piece =>
    (piece.1.faults origin).map (·.under [.key "components", .index piece.2])

lemma faultsFrom_cons (start : Nat) (raw : RawInterval) :
    faultsFrom origin start (raw :: pieces) =
      (raw.faults origin).map (·.under [.key "components", .index start]) ++
        faultsFrom origin (start + 1) pieces := by
  rw [faultsFrom, List.zipIdx_cons, List.flatMap_cons]
  rfl

/-- What a list of raw pieces stands for. -/
def StandFor (origin : Origin) (pieces : List RawInterval) (cs : List Interval) : Prop :=
  List.Forall₂ (fun raw c => raw.toInterval origin = .ok c) pieces cs

/-- Reading pieces ends in the intervals that they stand for, or in the faults of all pieces. -/
lemma readComponents_cases (origin : Origin) (start : Nat) (pieces : List RawInterval) :
    (∃ cs, readComponents origin start pieces = .ok cs ∧ StandFor origin pieces cs ∧
      faultsFrom origin start pieces = []) ∨
      (readComponents origin start pieces = .error (faultsFrom origin start pieces) ∧
        ∃ raw ∈ pieces, ∀ c, raw.toInterval origin ≠ .ok c) := by
  induction pieces generalizing start with
  | nil => exact .inl ⟨[], rfl, .nil, rfl⟩
  | cons raw pieces ih =>
    rw [faultsFrom_cons, readComponents]
    cases first : raw.toInterval origin with
    | ok c =>
      have sound : raw.faults origin = [] := by rw [RawInterval.faults, first]
      rcases ih (start + 1) with ⟨cs, rest, stand, nothing⟩ | ⟨rest, bad, hbad, refused⟩
      · exact .inl ⟨c :: cs, by rw [rest], .cons first stand, by rw [sound, nothing]; rfl⟩
      · exact .inr ⟨by rw [rest, sound]; rfl, bad, List.mem_cons_of_mem _ hbad, refused⟩
    | error faults =>
      have found : raw.faults origin = faults := by rw [RawInterval.faults, first]
      have refused (c : Interval) : raw.toInterval origin ≠ .ok c := by rw [first]; exact nofun
      rcases ih (start + 1) with ⟨cs, rest, -, nothing⟩ | ⟨rest, -⟩
      · exact .inr ⟨by rw [rest, found, nothing, List.append_nil], raw, List.mem_cons_self, refused⟩
      · exact .inr ⟨by rw [rest, found], raw, List.mem_cons_self, refused⟩

lemma StandFor.exists_toInterval {cs : List Interval} (stand : StandFor origin pieces cs) :
    ∀ raw ∈ pieces, ∃ c, raw.toInterval origin = .ok c := by
  induction stand with
  | nil => exact fun _ h => by cases h
  | cons first _ ih => exact List.forall_mem_cons.2 ⟨⟨_, first⟩, ih⟩

/-- Raw pieces make up the set of the intervals they stand for, or their faults are reported. -/
lemma ofRaw_cases (origin : Origin) (pieces : List RawInterval) :
    (∃ cs, ofRaw origin pieces = .ok (ofIntervals cs) ∧ StandFor origin pieces cs) ∨
      (ofRaw origin pieces = .error (faultsFrom origin 0 pieces) ∧
        ∃ raw ∈ pieces, ∀ c, raw.toInterval origin ≠ .ok c) := by
  rcases readComponents_cases origin 0 pieces with ⟨cs, read, stand, -⟩ | ⟨read, bad⟩
  · exact .inl ⟨cs, by rw [ofRaw, read]; rfl, stand⟩
  · exact .inr ⟨by rw [ofRaw, read]; rfl, bad⟩

end RealSet

open IntervalRecord RealSet

/-- Well-formed records are accepted, and the faults of all others are reported in order. -/
theorem validation_exact (origin : Origin) :
    (∀ fields, ((∃ i, (RawInterval.record fields).toInterval origin = .ok i) ↔ WellFormed fields) ∧
      (∀ i, (RawInterval.record fields).toInterval origin = .ok i →
        Describes fields .left i.lower ∧ Describes fields .right i.upper) ∧
      ∀ faults, (RawInterval.record fields).toInterval origin = .error faults →
        Reports fields faults) ∧
    ∀ pieces,
      ((∃ s, ofRaw origin pieces = .ok s) ↔ ∀ raw ∈ pieces, ∃ c, raw.toInterval origin = .ok c) ∧
      (∀ s, ofRaw origin pieces = .ok s →
        ∃ cs, StandFor origin pieces cs ∧ s = ofIntervals cs ∧ Normal s.components ∧
          ∀ x, x ∈ s ↔ ∃ c ∈ cs, x ∈ c) ∧
      ∀ faults, ofRaw origin pieces = .error faults → faults = faultsFrom origin 0 pieces := by
  refine ⟨fun fields => ⟨exists_toInterval_iff fields, fun _ => describes_of_toInterval,
    fun _ => reports_of_toInterval⟩, fun pieces => ?_⟩
  rcases ofRaw_cases origin pieces with ⟨cs, read, stand⟩ | ⟨read, bad, hbad, refused⟩
  · refine ⟨iff_of_true ⟨_, read⟩ stand.exists_toInterval, fun s eq => ?_, fun faults eq => ?_⟩
    · rw [read] at eq
      cases eq
      exact ⟨cs, stand, rfl, RealSet.normal _, fun _ => mem_ofIntervals⟩
    · rw [read] at eq
      cases eq
  · refine ⟨iff_of_false ?_ fun all => ?_, fun s eq => ?_, fun faults eq => ?_⟩
    · rintro ⟨s, eq⟩
      rw [read] at eq
      cases eq
    · obtain ⟨c, eq⟩ := all bad hbad
      exact refused c eq
    · rw [read] at eq
      cases eq
    · rw [read] at eq
      cases eq
      rfl

end LineMeasure
