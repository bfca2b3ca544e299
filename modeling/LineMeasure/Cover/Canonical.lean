import LineMeasure.Cover.Basic

/-!
# Canonical covers

The cover of a set by its own pieces. A bounded piece is made half-open: its left end is closed, and
a closed right end moves to the right by a pad that halves from piece to piece. The unbounded pieces
are covered by intervals of length one, taken in turn from each of them, in an endless tail.
-/

namespace LineMeasure.Cover

/-- A piece made half-open; the pad is used when its right end is closed. -/
def padded (eps : Rat) (index : Nat) (c : Interval) : Interval :=
  let pad := if c.rightClosed then eps / (Nat.pow 2 (index + 1) : Nat) else 0
  ⟨c.lower.map fun l => ⟨l.point, true⟩, c.upper.map fun u => ⟨u.point + pad, false⟩⟩

/-- The intervals of length one that cover an unbounded piece: from its finite end on, or around
zero when it has none. -/
def unitStep : Interval → Nat → HalfOpen
  | ⟨some l, _⟩, n => ⟨l.point + n, l.point + n + 1⟩
  | ⟨none, some u⟩, n => ⟨u.point - n - 1, u.point - n⟩
  | ⟨none, none⟩, n =>
    let k : Int := if n % 2 = 0 then (n / 2 : Nat) else -((n + 1) / 2 : Nat)
    ⟨k, k + 1⟩

/-- The steps of several pieces, in turn. -/
def interleavedStep (pieces : List Interval) (n : Nat) : HalfOpen :=
  match pieces[n % pieces.length]? with
  | some piece => unitStep piece (n / pieces.length)
  | none => .empty

/-- The canonical cover of a set with a given excess. -/
def canonical (s : RealSet) (eps : Rat) : Cover :=
  let pieces := s.components.mapIdx (padded eps)
  let unbounded := pieces.filter fun c => !c.isBounded
  let tail : Tail :=
    ⟨fun n => .ok (interleavedStep unbounded n).toInterval, .infinite,
      some (.ofIntervals unbounded), "unit steps over unbounded components"⟩
  ⟨pieces.filterMap Interval.halfOpen?, if unbounded.isEmpty then none else some tail⟩

end LineMeasure.Cover
