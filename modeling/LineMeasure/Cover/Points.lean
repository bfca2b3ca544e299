import LineMeasure.Cover.Basic
import LineMeasure.Sequence

/-!
# Covers of countable sets

The points of a sequence are covered by intervals whose lengths halve from term to term, so that all
of them together are not longer than a given excess. A listed sequence gives a finite cover; an
endless one is read term by term, when its terms are asked for. An entry of a sequence may fail to
be a value, and its term fails in the same way.
-/

namespace LineMeasure.Cover

/-- The term for the point at an index: `[p, p + eps / 2 ^ (n + 1))`. -/
def pointTerm (eps : Rat) (n : Nat) (p : Rat) : HalfOpen :=
  ⟨p, p + eps / (Nat.pow 2 (n + 1) : Nat)⟩

/-- The cover of a sequence of points with a given excess. -/
def ofPoints (points : Sequence (Except Error Value)) (eps : Rat) : Except Error Cover :=
  match points with
  | .listed ps => do return ⟨(← ps.mapM (· >>= Value.real "point")).mapIdx (pointTerm eps), none⟩
  | .endless p => do
    let total ← ENNRat.ofRat eps
    let term := fun n => do return (pointTerm eps n (← (← p n).real "point")).toInterval
    return ⟨[], some ⟨term, total, none, "geometric point cover"⟩⟩

end LineMeasure.Cover
