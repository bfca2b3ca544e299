import LineMeasure.Borel.Expr

/-!
# Sets as expressions over rays

Every set of the library is generated by rays. An interval that is closed on the left and open on
the right is a difference of two rays, or one ray or its complement. An open left end is the limit
of closed ones that move to the left, and a closed right end the limit of open ones that move to the
left.
-/

namespace LineMeasure.RayExpr

/-- The numbers from `left` on and below `right`, where either end may be absent. -/
def ofEnds : Option Rat → Option Rat → RayExpr
  | none, none => union [ray 0, complement (ray 0)]
  | none, some right => ray right
  | some left, none => complement (ray left)
  | some left, some right => difference (ray right) (ray left)

/-- An interval whose right end is open or absent. With an open left end it is the union of the
intervals that begin a growing part of its width, or of one, to the right of it. -/
def ofOpenRight (lower : Option Bound) (right : Option Rat) : RayExpr :=
  let c : Interval := ⟨lower, right.map fun r => ⟨r, false⟩⟩
  match lower with
  | some ⟨left, false⟩ =>
    let step := c.width?.getD 1
    countableUnion (fun n => ofEnds (some (left + step / (n + 2 : Nat))) right) (.ofIntervals [c])
  | _ => ofEnds (lower.map (·.point)) right

/-- An interval; with a closed right end it is the intersection of those that end a bit later. -/
def ofInterval (c : Interval) : RayExpr :=
  match c.upper with
  | some ⟨right, true⟩ =>
    countableInter (fun n => ofOpenRight c.lower (some (right + 1 / (n + 1 : Nat))))
      (.ofIntervals [c])
  | upper => ofOpenRight c.lower (upper.map (·.point))

/-- A set: the union of its pieces, or a difference without members when it has none. -/
def ofSet (s : RealSet) : RayExpr :=
  match s.components with
  | [] => difference (ray 0) (ray 0)
  | [c] => ofInterval c
  | cs => union (cs.map ofInterval)

end LineMeasure.RayExpr
