import LineMeasure.Pattern.Basic

/-!
# Widths of regular expressions

How many characters an expression can match. A look backwards needs an expression that always
matches the same number of characters. `measure?` goes through a tree from left to right; a
reference is as wide as its group, which stands before it. On the way it finds how far the looks
backwards reach.
-/

namespace LineMeasure

/-- The least and the greatest number of characters that an expression can match; the greatest one
is absent when there is no bound. -/
structure Width where
  least : Nat
  most : Option Nat
  deriving DecidableEq

namespace Width

/-- The width of an expression that always matches `n` characters. -/
def exactly (n : Nat) : Width :=
  ⟨n, some n⟩

/-- Whether all matches have the same number of characters, below the limit of `2 ^ 32 - 1`. -/
def isFixed (w : Width) : Bool :=
  w.least < 4294967295 && w.most == some w.least

/-- The width of two expressions one after the other. -/
def add (v w : Width) : Width :=
  match v.most, w.most with
  | some m, some n => ⟨v.least + w.least, some (m + n)⟩
  | _, _ => ⟨v.least + w.least, none⟩

/-- The width of two alternatives. -/
def join (v w : Width) : Width :=
  let least := if v.least ≤ w.least then v.least else w.least
  match v.most, w.most with
  | some m, some n => ⟨least, some (if m ≤ n then n else m)⟩
  | _, _ => ⟨least, none⟩

/-- The width of a repetition. Repeating what matches no character, or nothing, has a bound. -/
def times (least : Nat) (most : Option Nat) (w : Width) : Width :=
  match w.most, most with
  | some 0, _ => ⟨least * w.least, some 0⟩
  | _, some 0 => ⟨least * w.least, some 0⟩
  | some m, some n => ⟨least * w.least, some (m * n)⟩
  | _, _ => ⟨least * w.least, none⟩

end Width

namespace Pattern

/-- What has been measured up to a point of an expression: the widths of the groups, and how many
characters the looks backwards reach back at most. -/
structure Measures where
  groups : List (Nat × Width)
  reach : Nat

namespace Measures

/-- Nothing has been measured yet. -/
def none : Measures :=
  ⟨[], 0⟩

/-- The measures after a group of a width. -/
def withGroup (m : Measures) (group : Nat) (w : Width) : Measures :=
  { m with groups := (group, w) :: m.groups }

/-- The measures after a look backwards over an expression of a width. -/
def withLook (m : Measures) (w : Width) : Measures :=
  { m with reach := if m.reach < w.least then w.least else m.reach }

end Measures

/-- How many characters a look backwards may reach back: its width is kept in 31 bits. -/
def farthestLook : Nat :=
  2147483647

/-- The width of an expression behind what has been measured, and the measures up to its end. There
is none when a look backwards has no fixed width. -/
def measure? (m : Measures) : Pattern → Option (Width × Measures)
  | empty | position => some (.exactly 0, m)
  | character => some (.exactly 1, m)
  | enclosed body => body.measure? m
  | capture group body => do
    let (w, m) ← body.measure? m
    return (w, m.withGroup group w)
  | look false body => do
    let (_, m) ← body.measure? m
    return (.exactly 0, m)
  | look true body => do
    let (w, m) ← body.measure? m
    if w.isFixed then return (.exactly 0, m.withLook w) else none
  | reference group => do
    return (← m.groups.lookup group, m)
  | conditional _ yes no => do
    let (v, m) ← yes.measure? m
    let (w, m) ← no.measure? m
    return (v.join w, m)
  | repetition least most body => do
    let (w, m) ← body.measure? m
    return (w.times least most, m)
  | seq first second => do
    let (v, m) ← first.measure? m
    let (w, m) ← second.measure? m
    return (v.add w, m)
  | alt first second => do
    let (v, m) ← first.measure? m
    let (w, m) ← second.measure? m
    return (v.join w, m)

end Pattern
end LineMeasure
