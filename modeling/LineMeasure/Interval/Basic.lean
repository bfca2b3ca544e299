import LineMeasure.Rational.Basic

/-!
# Intervals of the line

An interval has a lower and an upper end. An end is a bound, which is a point that may or may not
belong to the interval, or it is absent, and then the interval goes on forever on that side; so an
infinite end is never closed. The members are the rational numbers between the two ends. Nothing
forbids a lower end above the upper one: such an interval is empty.
-/

namespace LineMeasure

/-- A finite end of an interval: its point, and whether the point belongs to the interval. -/
structure Bound where
  point : Rat
  closed : Bool
  deriving DecidableEq

/-- An interval of the line; an absent end is infinite. -/
structure Interval where
  lower : Option Bound
  upper : Option Bound
  deriving DecidableEq

namespace Bound

/-- The bound moved by `t`. -/
def shift (t : Rat) (b : Bound) : Bound :=
  ⟨b.point + t, b.closed⟩

/-- The bound on the other side of the same cut: what ends before `b` begins at `b.flip`. -/
def flip (b : Bound) : Bound :=
  ⟨b.point, !b.closed⟩

/-- `x` lies inside the bound `b` of a lower end. -/
def IsBelow (b : Bound) (x : Rat) : Prop :=
  b.point < x ∨ (b.closed = true ∧ b.point = x)

/-- `x` lies inside the bound `b` of an upper end. -/
def IsAbove (b : Bound) (x : Rat) : Prop :=
  x < b.point ∨ (b.closed = true ∧ x = b.point)

instance (b : Bound) (x : Rat) : Decidable (b.IsBelow x) :=
  inferInstanceAs (Decidable (_ ∨ _))

instance (b : Bound) (x : Rat) : Decidable (b.IsAbove x) :=
  inferInstanceAs (Decidable (_ ∨ _))

end Bound

namespace Interval

/-- `x` lies inside a lower end. -/
def InLower (lower : Option Bound) (x : Rat) : Prop :=
  ∀ b ∈ lower, b.IsBelow x

/-- `x` lies inside an upper end. -/
def InUpper (upper : Option Bound) (x : Rat) : Prop :=
  ∀ b ∈ upper, b.IsAbove x

@[simp]
theorem inLower_none (x : Rat) : InLower none x := by
  simp [InLower]

@[simp]
theorem inLower_some {b : Bound} {x : Rat} : InLower (some b) x ↔ b.IsBelow x := by
  simp [InLower]

@[simp]
theorem inUpper_none (x : Rat) : InUpper none x := by
  simp [InUpper]

@[simp]
theorem inUpper_some {b : Bound} {x : Rat} : InUpper (some b) x ↔ b.IsAbove x := by
  simp [InUpper]

instance (lower : Option Bound) (x : Rat) : Decidable (InLower lower x) :=
  match lower with
  | none => .isTrue (inLower_none x)
  | some _ => decidable_of_iff' _ inLower_some

instance (upper : Option Bound) (x : Rat) : Decidable (InUpper upper x) :=
  match upper with
  | none => .isTrue (inUpper_none x)
  | some _ => decidable_of_iff' _ inUpper_some

/-- The members of an interval lie inside both of its ends. -/
instance : Membership Rat Interval :=
  ⟨fun i x => InLower i.lower x ∧ InUpper i.upper x⟩

theorem mem_iff {i : Interval} {x : Rat} : x ∈ i ↔ InLower i.lower x ∧ InUpper i.upper x :=
  Iff.rfl

instance (i : Interval) (x : Rat) : Decidable (x ∈ i) :=
  decidable_of_iff' _ mem_iff

/-- The interval `[a, b)`. -/
def ico (a b : Rat) : Interval :=
  ⟨some ⟨a, true⟩, some ⟨b, false⟩⟩

/-- The one point `p`. -/
def point (p : Rat) : Interval :=
  ⟨some ⟨p, true⟩, some ⟨p, true⟩⟩

/-- The open ray of all numbers below `c`. -/
def rayBelow (c : Rat) : Interval :=
  ⟨none, some ⟨c, false⟩⟩

theorem mem_rayBelow {c x : Rat} : x ∈ rayBelow c ↔ x < c := by
  simp [rayBelow, mem_iff, Bound.IsAbove]

/-- The whole line. -/
def line : Interval :=
  ⟨none, none⟩

/-- Whether the left end is finite and belongs to the interval. -/
def leftClosed (i : Interval) : Bool :=
  i.lower.any (·.closed)

/-- Whether the right end is finite and belongs to the interval. -/
def rightClosed (i : Interval) : Bool :=
  i.upper.any (·.closed)

/-- Whether both ends are finite. -/
def isBounded (i : Interval) : Bool :=
  i.lower.isSome && i.upper.isSome

/-- Whether no number lies between the ends. -/
def isEmpty : Interval → Bool
  | ⟨some l, some u⟩ => u.point < l.point || (l.point == u.point && !(l.closed && u.closed))
  | _ => false

/-- The distance from the left to the right end, zero if they are in the other order; an unbounded
interval has none. -/
def width? : Interval → Option Rat
  | ⟨some l, some u⟩ => some (Rational.positivePart (u.point - l.point))
  | _ => none

/-- The lower end that leaves out what either of two leaves out. -/
def innerLower : Option Bound → Option Bound → Option Bound
  | none, b => b
  | a, none => a
  | some a, some b =>
    if a.point < b.point then some b
    else if b.point < a.point then some a
    else some ⟨a.point, a.closed && b.closed⟩

/-- The upper end that leaves out what either of two leaves out. -/
def innerUpper : Option Bound → Option Bound → Option Bound
  | none, b => b
  | a, none => a
  | some a, some b =>
    if a.point < b.point then some a
    else if b.point < a.point then some b
    else some ⟨a.point, a.closed && b.closed⟩

/-- The upper end that leaves out what both of two leave out. -/
def outerUpper : Option Bound → Option Bound → Option Bound
  | none, _ => none
  | _, none => none
  | some a, some b =>
    if a.point < b.point then some b
    else if b.point < a.point then some a
    else some ⟨a.point, a.closed || b.closed⟩

theorem inLower_innerLower {a b : Option Bound} {x : Rat} :
    InLower (innerLower a b) x ↔ InLower a x ∧ InLower b x := by
  rcases a with _ | ⟨p, c⟩ <;> rcases b with _ | ⟨q, d⟩ <;> simp [innerLower]
  grind [Bound.IsBelow, inLower_some]

theorem inUpper_innerUpper {a b : Option Bound} {x : Rat} :
    InUpper (innerUpper a b) x ↔ InUpper a x ∧ InUpper b x := by
  rcases a with _ | ⟨p, c⟩ <;> rcases b with _ | ⟨q, d⟩ <;> simp [innerUpper]
  grind [Bound.IsAbove, inUpper_some]

theorem inUpper_outerUpper {a b : Option Bound} {x : Rat} :
    InUpper (outerUpper a b) x ↔ InUpper a x ∨ InUpper b x := by
  rcases a with _ | ⟨p, c⟩ <;> rcases b with _ | ⟨q, d⟩ <;> simp [outerUpper]
  grind [Bound.IsAbove, inUpper_some]

/-- The intersection, which is an interval again and may be empty. -/
instance : Inter Interval :=
  ⟨fun i j => ⟨innerLower i.lower j.lower, innerUpper i.upper j.upper⟩⟩

/-- The intersection holds the common members. -/
theorem mem_inter {i j : Interval} {x : Rat} : x ∈ i ∩ j ↔ x ∈ i ∧ x ∈ j := by
  have lower := inLower_innerLower (a := i.lower) (b := j.lower) (x := x)
  have upper := inUpper_innerUpper (a := i.upper) (b := j.upper) (x := x)
  simp only [mem_iff]
  change InLower (innerLower i.lower j.lower) x ∧ InUpper (innerUpper i.upper j.upper) x ↔ _
  grind

/-- The interval moved by `t`. -/
def shift (t : Rat) (i : Interval) : Interval :=
  ⟨i.lower.map (Bound.shift t), i.upper.map (Bound.shift t)⟩

/-- A number lies in the moved interval when it lies in the interval before the move. -/
theorem mem_shift {t x : Rat} {i : Interval} : x ∈ i.shift t ↔ x - t ∈ i := by
  obtain ⟨lower, upper⟩ := i
  rcases lower with _ | ⟨p, c⟩ <;> rcases upper with _ | ⟨q, d⟩ <;>
    simp only [mem_iff, shift, Option.map_none, Option.map_some, inLower_none, inLower_some,
      inUpper_none, inUpper_some, Bound.shift] <;>
    grind [Bound.IsBelow, Bound.IsAbove]

/-- An empty interval has no members. -/
theorem not_mem_of_isEmpty {i : Interval} (h : i.isEmpty = true) (x : Rat) : ¬ x ∈ i := by
  obtain ⟨lower, upper⟩ := i
  rcases lower with _ | ⟨p, c⟩ <;> rcases upper with _ | ⟨q, d⟩ <;> simp only [isEmpty] at h
  · cases h
  · cases h
  · cases h
  · simp only [mem_iff, inLower_some, inUpper_some]
    grind [Bound.IsBelow, Bound.IsAbove]

/-- The text of an interval: brackets at closed ends, parentheses at open and infinite ones. -/
def text (i : Interval) : String :=
  (if i.leftClosed then "[" else "(") ++
    i.lower.elim "-inf" (fun b => Rational.text b.point) ++ ", "
    ++ i.upper.elim "inf" (fun b => Rational.text b.point) ++ (if i.rightClosed then "]" else ")")

end Interval
end LineMeasure
