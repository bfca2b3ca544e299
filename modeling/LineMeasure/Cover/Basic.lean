import LineMeasure.ENNRat.Sum
import LineMeasure.Error
import LineMeasure.Interval.HalfOpen
import LineMeasure.Length
import LineMeasure.RealSet.Inclusion
import LineMeasure.Sequence

/-!
# Covers

A cover is a sequence of half-open intervals: a finite list of terms and, if it is endless, a tail.
The terms of a tail are made on demand, and making one may fail. A tail declares the sum of its
lengths and, when it is known, the union of its terms.
-/

namespace LineMeasure

/-- The endless part of a cover. -/
structure Tail where
  term : Nat → Except Error Interval
  total : ENNRat
  span : Option RealSet
  description : String

/-- A cover by half-open intervals. -/
structure Cover where
  terms : List HalfOpen
  tail : Option Tail

namespace Cover

/-- An interval as the term at an index; it has to be half-open with finite ends. -/
def checkTerm (index : Nat) (i : Interval) : Except Error HalfOpen :=
  match i.halfOpen? with
  | some t => .ok t
  | none => .error (.cover (.term index i))

/-- Checks intervals as terms from an index on. -/
def checkTerms : Nat → List Interval → Except Error (List HalfOpen)
  | _, [] => .ok []
  | index, i :: rest => do return (← checkTerm index i) :: (← checkTerms (index + 1) rest)

/-- The cover with given terms. -/
def of (terms : List Interval) (tail : Option Tail) : Except Error Cover := do
  return ⟨← checkTerms 0 terms, tail⟩

/-- Whether the cover has no tail. -/
def isFinite (c : Cover) : Bool :=
  c.tail.isNone

/-- The term of a tail behind `offset` other terms. -/
def tailTerm (offset : Nat) (tail : Tail) (n : Nat) : Except Error HalfOpen := do
  checkTerm (offset + n) (← tail.term n)

/-- The term at an index; behind the end of a finite cover all terms are empty. -/
def term (c : Cover) (n : Nat) : Except Error HalfOpen :=
  match c.terms[n]?, c.tail with
  | some t, _ => .ok t
  | none, none => .ok .empty
  | none, some tail => tailTerm c.terms.length tail (n - c.terms.length)

/-- The first `count` terms, or all of them when there are fewer. -/
def take (c : Cover) (count : Nat) : Except Error (List HalfOpen) :=
  match c.tail with
  | none => .ok (c.terms.take count)
  | some tail => do
    let fromTail ←
      Sequence.readFirst (tailTerm c.terms.length tail) (count - c.terms.length)
    return c.terms.take count ++ fromTail

/-- The lengths of the first terms. -/
def lengths (c : Cover) (count : Nat) : Except Error (List ENNRat) := do
  return (← c.take count).map HalfOpen.length

/-- The sums of the first one, two, three and so on of a list of lengths, added to `start`. -/
def runningSums (start : ENNRat) : List ENNRat → List ENNRat
  | [] => []
  | a :: rest => (start + a) :: runningSums (start + a) rest

/-- How many terms there are; without end, as many as can be asked for. -/
def termCount (c : Cover) : Nat :=
  match c.tail with
  | none => c.terms.length
  | some _ => Sequence.maxCount

/-- The partial sums of the lengths of the first terms; all terms when no count is given. -/
def partialSums (c : Cover) (count : Option Nat) : Except Error (List ENNRat) := do
  return runningSums 0 (← c.lengths (count.getD c.termCount))

/-- A sum over the terms, together with what the tail declares. -/
def withTail (c : Cover) (terms : ENNRat) : ENNRat :=
  match c.tail with
  | none => terms
  | some tail => terms + tail.total

/-- The sum of all lengths. -/
def total (c : Cover) : ENNRat :=
  c.withTail (ENNRat.sum (c.terms.map HalfOpen.length))

/-- The sum of all lengths by the length functional. -/
def sum (c : Cover) : ENNRat :=
  c.withTail (ENNRat.sum (c.terms.map fun t => termLength t.toInterval))

/-- The union of half-open intervals. -/
def unionOf (terms : List HalfOpen) : RealSet :=
  .ofIntervals (terms.map HalfOpen.toInterval)

/-- The union of all terms. A tail of unknown span takes part with `count` of its terms. -/
def union (c : Cover) (count : Option Nat) : Except Error RealSet :=
  match c.tail with
  | none => .ok (unionOf c.terms)
  | some tail =>
    match tail.span, count with
    | some span, _ => .ok (unionOf c.terms ∪ span)
    | none, none => .error (.cover .unknownSpan)
    | none, some count => do
      let fromTail ← Sequence.readFirst (tailTerm c.terms.length tail) count
      return unionOf c.terms ∪ unionOf fromTail

/-- Whether the union of the terms includes a set. -/
def covers (c : Cover) (s : RealSet) (count : Option Nat) : Except Error Bool := do
  return s.isSubset (← c.union count)

/-- One term as a document. -/
def termToJson (t : HalfOpen) : Json :=
  .object [("left", .text (Rational.text t.left)), ("right", .text (Rational.text t.right))]

/-- A tail as a document. -/
def tailToJson (tail : Tail) : Json :=
  .object [("total", .text tail.total.text), ("description", .text tail.description)]

/-- The cover as a document. -/
def toJson (c : Cover) : Json :=
  .object [("terms", .array (c.terms.map termToJson)), ("tail", c.tail.elim .null tailToJson)]

end Cover
end LineMeasure
