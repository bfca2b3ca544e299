import LineMeasure.Record.Fault
import LineMeasure.Contract.Basic

/-!
# Records of intervals

The record of an interval has two ends and two flags. An end is null or stands for a number; a flag
that is given has to be clear, and it must not close an infinite end. A flag that is a text must
consist of characters. A faulty end is reported by itself and its flag is then not held against it.
Where an interval is asked for, one at hand serves as well as raw fields, and anything else is no
record. `Interval.toJson` writes the record of an interval as a document, and `Interval.ofJson`
reads it.
-/

namespace LineMeasure

/-- The raw fields of an interval; a flag that is not given is false. -/
structure IntervalRecord where
  left : Value
  right : Value
  leftClosed : Option Value
  rightClosed : Option Value
  deriving DecidableEq

namespace Value

/-- The texts for true, in lower case. -/
def trueTexts : List String :=
  ["1", "t", "true", "y", "yes", "on"]

/-- The texts for false, in lower case. -/
def falseTexts : List String :=
  ["0", "f", "false", "n", "no", "off"]

/-- The flag that an integer stands for. -/
def flagOfInt (n : Int) : Except FieldFault Bool :=
  if n = 1 then .ok true
  else if n = 0 then .ok false
  else .error .unclearFlag

/-- The flag that a floating point number stands for; only integers of 64 bits are considered. -/
def flagOfFloat (x : Binary64) : Except FieldFault Bool :=
  match x.value? with
  | some q =>
    if q.den = 1 ∧ -9223372036854775808 < q.num ∧ q.num < 9223372036854775808 then flagOfInt q.num
    else .error .noFlag
  | none => .error .noFlag

/-- The flag that the nearest floating point number to a rational number stands for. -/
def flagOfRat (q : Rat) : Except FieldFault Bool :=
  match Binary64.round? q with
  | some x => flagOfFloat x
  | none => .error .noFlag

/-- The flag that a value stands for. -/
def toFlag : Value → Except FieldFault Bool
  | bool b => .ok b
  | int n =>
    if -9223372036854775808 ≤ n ∧ n < 9223372036854775808 then flagOfInt n else flagOfRat n
  | float x => flagOfFloat x
  | rational q | decimal q => flagOfRat q
  | extended (.finite q _) => flagOfRat q
  | text s =>
    let lower := s.map Char.toLower
    if trueTexts.contains lower then .ok true
    else if falseTexts.contains lower then .ok false
    else if Text.hasHalf (Text.codePoints s.toList) then .error .halfSurrogate
    else .error .unclearFlag
  | _ => .error .noFlag

/-- The end that a value stands for; null is an infinite one. -/
def toEnd : Value → Except FieldFault (Option Rat)
  | null => .ok none
  | v =>
    match v.toRat with
    | .ok q => .ok (some q)
    | .error fault => .error (.endpoint fault)

end Value

namespace IntervalRecord

/-- The flag of an end that has been read already. -/
def readFlag (side : Side) (read : Except FieldFault (Option Rat)) (flag : Option Value) :
    Except FieldFault Bool :=
  match flag with
  | none => .ok false
  | some value =>
    match value.toFlag, read with
    | .ok true, .ok none => .error (.infiniteClosed side)
    | result, _ => result

/-- The fault of a field, if it has one. -/
def faultOf {α : Type} (name : String) : Except FieldFault α → List RecordFault
  | .ok _ => []
  | .error fault => [.ofField name fault]

/-- A finite end with its flag. -/
def boundOf (read : Option Rat) (closed : Bool) : Option Bound :=
  read.map fun point => ⟨point, closed⟩

/-- The interval of a record, or all faults of its fields. -/
def toInterval (r : IntervalRecord) : Except (List RecordFault) Interval :=
  let left := r.left.toEnd
  let right := r.right.toEnd
  let leftClosed := readFlag .left left r.leftClosed
  let rightClosed := readFlag .right right r.rightClosed
  match left, right, leftClosed, rightClosed with
  | .ok left, .ok right, .ok leftClosed, .ok rightClosed =>
    .ok ⟨boundOf left leftClosed, boundOf right rightClosed⟩
  | left, right, leftClosed, rightClosed =>
    .error (faultOf "left" left ++ faultOf "right" right ++ faultOf "left_closed" leftClosed
      ++ faultOf "right_closed" rightClosed)

/-- The record with given fields; the ends are null where they are absent. -/
def ofFields (fields : List (String × Value)) : IntervalRecord :=
  ⟨(fields.lookup "left").getD .null, (fields.lookup "right").getD .null,
    fields.lookup "left_closed", fields.lookup "right_closed"⟩

/-- The record of `[a, b)`. -/
def ico (a b : Value) : IntervalRecord :=
  ⟨a, b, some (.bool true), some (.bool false)⟩

/-- The record of `[a, b]`. -/
def icc (a b : Value) : IntervalRecord :=
  ⟨a, b, some (.bool true), some (.bool true)⟩

/-- The record of `(a, b)`. -/
def ioo (a b : Value) : IntervalRecord :=
  ⟨a, b, some (.bool false), some (.bool false)⟩

/-- The record of `(a, b]`. -/
def ioc (a b : Value) : IntervalRecord :=
  ⟨a, b, some (.bool false), some (.bool true)⟩

/-- The record of the one point `p`. -/
def point (p : Value) : IntervalRecord :=
  icc p p

/-- The record of the ray of all numbers below `c`. -/
def rayBelow (c : Value) : IntervalRecord :=
  ⟨.null, c, none, none⟩

/-- The record of the ray from `c` on. -/
def rayAbove (c : Value) : IntervalRecord :=
  ⟨c, .null, some (.bool true), none⟩

/-- The record of the whole line. -/
def line : IntervalRecord :=
  ⟨.null, .null, none, none⟩

end IntervalRecord

/-- What an interval may be built from: an interval, raw fields by name, or something else. -/
inductive RawInterval where
  | interval (i : Interval)
  | record (fields : List (String × Value))
  | other
  deriving DecidableEq

namespace RawInterval

/-- The interval that is meant, or all faults of its record. -/
def toInterval (origin : Origin) : RawInterval → Except (List RecordFault) Interval
  | interval i => .ok i
  | record fields => (IntervalRecord.ofFields fields).toInterval
  | other => .error [⟨[], .noRecord .interval origin⟩]

/-- A document in the place of an interval. -/
def ofJson : Json → RawInterval
  | .object fields => record (fields.map fun f => (f.1, Value.ofJson f.2))
  | _ => other

end RawInterval

namespace Interval

/-- A finite end as text, an infinite one as null. -/
def endToJson (e : Option Bound) : Json :=
  e.elim .null fun b => .text (Rational.text b.point)

/-- The record of an interval, as a document. -/
def toJson (i : Interval) : Json :=
  .object [("left", endToJson i.lower), ("right", endToJson i.upper),
    ("left_closed", .bool i.leftClosed), ("right_closed", .bool i.rightClosed)]

/-- The interval that a document describes, or all faults of the record in it. -/
def ofJson (origin : Origin) (document : Json) : Except (List RecordFault) Interval :=
  (RawInterval.ofJson document).toInterval origin

end Interval
end LineMeasure
