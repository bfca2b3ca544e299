import LineMeasure.Pattern.Basic

/-!
# Groups of regular expressions

What is known about groups at a point of an expression. The names of groups are different from each
other; references lead to groups that have been closed, and inside a look backwards to groups before
it; conditions may also speak of groups that are still open or that follow.
-/

namespace LineMeasure.Pattern

/-- How a reference names a group. -/
inductive GroupName where
  | number (n : Nat)
  | name (s : String)
  deriving DecidableEq

/-- What is known at a point of an expression: how many groups have been opened, and the numbers of
those that have been closed; the names of groups; inside a look backwards, the number of the first
group that opened after its start; and the numbers of groups in conditions. -/
structure Scope where
  opened : Nat
  closed : List Nat
  names : List (String × Nat)
  limit : Option Nat
  awaited : List Nat

namespace Scope

/-- Where an expression begins. -/
def start : Scope :=
  ⟨0, [], [], none, []⟩

/-- Whether a look backwards, if there is one around, allows to speak of a group. -/
def allows (s : Scope) (n : Nat) : Bool :=
  s.limit.all fun limit => n < limit && s.closed.contains n

/-- The number of the group that a reference leads to. -/
def reference? (s : Scope) (target : GroupName) : Option Nat := do
  let n ← match target with
    | .number n => some n
    | .name name => s.names.lookup name
  if s.closed.contains n && s.allows n then return n else none

/-- The number of the group that a condition speaks of. A group is known by its name only once it
has been opened; numbers end below `2 ^ 30 - 1`. -/
def condition? (s : Scope) (target : GroupName) : Option (Nat × Scope) := do
  let (n, s) ← match target with
    | .number n =>
      if 0 < n ∧ n < 1073741823 then some (n, { s with awaited := n :: s.awaited }) else none
    | .name name => (s.names.lookup name).map (·, s)
  if s.allows n then return (n, s) else none

/-- Opens the next group; its name must be new. -/
def openGroup? (s : Scope) (name : Option String) : Option (Nat × Scope) :=
  let n := s.opened + 1
  match name with
  | none => some (n, { s with opened := n })
  | some name =>
    if (s.names.lookup name).isSome then none
    else some (n, { s with opened := n, names := (name, n) :: s.names })

/-- Closes a group. -/
def closeGroup (s : Scope) (n : Nat) : Scope :=
  { s with closed := n :: s.closed }

/-- Enters a look backwards. -/
def lookBack (s : Scope) : Scope :=
  { s with limit := some (s.limit.getD (s.opened + 1)) }

/-- Whether all groups exist whose numbers stand in conditions. -/
def isComplete (s : Scope) : Bool :=
  s.awaited.all (· ≤ s.opened)

end Scope
end LineMeasure.Pattern
