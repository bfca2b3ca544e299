import LineMeasure.Interval.HalfOpen
import LineMeasure.Limit.Superlevel

/-!
# How far intervals reach

For a list of intervals in any order, how much of `[a, x)` they cover, and how far from `a` on they
cover everything. The second question has two answers that agree: the supremum of the points up to
which the covered length keeps pace with the distance from `a`, and the end of a single pass over
the intervals in order of their left ends.
-/

namespace LineMeasure.Compactness

/-- The order of pieces by their left and then by their right ends. -/
def pieceLe (s t : HalfOpen) : Bool :=
  s.left < t.left || (s.left == t.left && s.right ≤ t.right)

/-- The part of an interval below `x`, and from `a` on when `a` is given. -/
def clip (a : Option Rat) (x : Rat) (t : HalfOpen) : HalfOpen :=
  ⟨a.elim t.left (Rational.larger t.left), Rational.smaller t.right x⟩

/-- The length that pieces in order of their left ends add to what lies below `reach`. -/
def lengthBeyond (reach : Option Rat) : List HalfOpen → Rat
  | [] => 0
  | t :: rest =>
    if t.right ≤ t.left then lengthBeyond reach rest
    else
      let left := reach.elim t.left (Rational.larger t.left)
      Rational.positivePart (t.right - left)
        + lengthBeyond (some (reach.elim t.right (Rational.larger t.right))) rest

/-- The length of the part of `[a, x)`, or of all that is below `x`, that the intervals cover; what
several of them cover counts once. -/
def coveredLength (terms : List HalfOpen) (x : Rat) (a : Option Rat) : Rat :=
  lengthBeyond none ((terms.map (clip a x)).mergeSort pieceLe)

/-- By how much the intervals cover more of `[a, x)` than its length. -/
def slack (a : Rat) (terms : List HalfOpen) (x : Rat) : Rat :=
  coveredLength terms x (some a) - (x - a)

/-- The supremum of the points `x` of `[a, b]` for which `[a, x)` is covered up to its full length.
The point `a` is one of them, so that there is one. -/
def progressSupremum (a b : Rat) (terms : List HalfOpen) : Except Error Rat := do
  let breakpoints := terms.flatMap fun t => [t.left, t.right]
  match ← Limit.superlevelSupremum (slack a terms) breakpoints a b with
  | some x => return x
  | none => throw (.compactness ⟨a, b⟩ .noProgress)

/-- How far a pass over intervals in order of their left ends gets; it stops at `b` or at a gap. -/
def advance (b reach : Rat) : List HalfOpen → Rat
  | [] => reach
  | t :: rest =>
    if b ≤ reach ∨ reach < t.left then reach else advance b (Rational.larger reach t.right) rest

/-- The first point of `[a, b]` behind which the intervals leave a gap, or `b`. -/
def firstUncovered (a b : Rat) (terms : List HalfOpen) : Rat :=
  Rational.smaller (advance b a (terms.mergeSort fun s t => s.left ≤ t.left)) b

end LineMeasure.Compactness
