import LineMeasure.Record.Interval
import LineMeasure.RealSet.Basic

/-!
# Records of sets

The record of a set lists the records of its pieces. Any intervals may be listed; the set is their
union in normal form. The faults of all pieces are reported, in the order of the pieces.
-/

namespace LineMeasure.RealSet

/-- The record of a set, as a document. -/
def toJson (s : RealSet) : Json :=
  .object [("components", .array (s.components.map Interval.toJson))]

/-- The intervals that raw ones from the index `i` on stand for, or the faults of all of them. -/
def readComponents (origin : Origin) :
    Nat → List RawInterval → Except (List RecordFault) (List Interval)
  | _, [] => .ok []
  | i, raw :: rest =>
    match raw.toInterval origin, readComponents origin (i + 1) rest with
    | .ok c, .ok cs => .ok (c :: cs)
    | .ok _, .error faults => .error faults
    | .error faults, .ok _ => .error (faults.map (·.under [.key "components", .index i]))
    | .error faults, .error others =>
      .error (faults.map (·.under [.key "components", .index i]) ++ others)

/-- The set with given raw pieces, or all faults of the pieces. -/
def ofRaw (origin : Origin) (pieces : List RawInterval) : Except (List RecordFault) RealSet :=
  (readComponents origin 0 pieces).map ofIntervals

/-- The set that a record describes, or all faults of the record. -/
def ofJson (origin : Origin) : Json → Except (List RecordFault) RealSet
  | .object fields =>
    match Json.field? "components" fields with
    | none => .ok ∅
    | some (.array items) => ofRaw origin (items.map RawInterval.ofJson)
    | some _ => .error [.ofField "components" (.noList origin)]
  | _ => .error [⟨[], .noRecord .realSet origin⟩]

end LineMeasure.RealSet
