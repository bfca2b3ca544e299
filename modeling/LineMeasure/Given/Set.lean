import LineMeasure.Cover.Canonical
import LineMeasure.Cover.Points

/-!
# Sets and covers from given values

Where a set is asked for, an interval may be given as well, and it stands for the set of its
members; anything else is an error. Intervals, sets of points, covers and counts are built from
given values here, under the names that error messages use for them.
-/

namespace LineMeasure

/-- What may be given for a set; any other value is known by its kind. -/
inductive GivenSet where
  | set (s : RealSet)
  | interval (i : Interval)
  | other (kind : String)
  deriving DecidableEq

namespace GivenSet

/-- The set that is meant. -/
def toRealSet : GivenSet → Except Error RealSet
  | set s => .ok s
  | interval i => .ok (.ofIntervals [i])
  | other kind => .error (.noSet kind)

/-- A value given for a set. -/
def ofValue : Value → GivenSet
  | .interval i => .interval i
  | v => .other v.kind

end GivenSet

namespace Given

/-- The interval of a record; its faults are an error. -/
def interval (r : IntervalRecord) : Except Error Interval :=
  r.toInterval.mapError .record

/-- The set of given points. -/
def points (ps : List Value) : Except Error RealSet := do
  return .ofIntervals (← ps.mapM fun p => interval (.point p))

/-- The number of entries to take from a sequence; a negative or huge one is refused. -/
def count (n : Int) : Except Error Nat :=
  if 0 ≤ n ∧ n.toNat ≤ Sequence.maxCount then .ok n.toNat else .error .count

/-- An optional number of entries to take from a sequence. -/
def count? (n : Option Int) : Except Error (Option Nat) :=
  n.elim (.ok none) fun n => return some (← count n)

/-- The canonical cover of a set, with a given positive excess. -/
def canonicalCover (s : GivenSet) (eps : Value) : Except Error Cover := do
  let s ← s.toRealSet
  return .canonical s (← eps.positive "eps")

/-- The cover of a sequence of points, with a given positive excess. -/
def pointCover (points : Sequence (Except Error Value)) (eps : Value) : Except Error Cover := do
  Cover.ofPoints points (← eps.positive "eps")

/-- The term of a cover at an index that must not be negative. -/
def coverTerm (c : Cover) (n : Int) : Except Error HalfOpen :=
  if n < 0 then .error (.negativeIndex n) else c.term n.toNat

/-- The partial sums of the lengths of the first terms of a cover, or of all terms. -/
def partialSums (c : Cover) (n : Option Int) : Except Error (List ENNRat) := do
  c.partialSums (← count? n)

end Given
end LineMeasure
