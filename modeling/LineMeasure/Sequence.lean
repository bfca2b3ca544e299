/-!
# Listed and endless sequences

A sequence is given by the list of its entries, or by a rule that names the entry at every index.
Where an entry may fail to be made, the first entries are read one after the other, and reading ends
at the first failure; so it ends early even if a large number of entries is asked for.
-/

namespace LineMeasure

/-- A sequence of entries, finite or endless. -/
inductive Sequence (α : Type) where
  | listed (entries : List α)
  | endless (entry : Nat → α)

namespace Sequence

/-- The largest number of entries that can be asked for. -/
def maxCount : Nat :=
  9223372036854775807

/-- The first `count` entries, or all of them when there are fewer. -/
def take {α : Type} (count : Nat) : Sequence α → List α
  | listed entries => entries.take count
  | endless entry => (List.range count).map entry

theorem length_take_le {α : Type} (count : Nat) (s : Sequence α) :
    (s.take count).length ≤ count := by
  cases s with
  | listed entries =>
    rw [take, List.length_take]
    exact Nat.min_le_left _ _
  | endless entry => simp [take]

/-- Reads `count` entries of a rule from an index on, behind those read before, of which the last
one stands first. -/
def readFrom {ε α : Type} (entry : Nat → Except ε α) (before : List α) (index : Nat) :
    Nat → Except ε (List α)
  | 0 => .ok before.reverse
  | count + 1 =>
    match entry index with
    | .ok a => readFrom entry (a :: before) (index + 1) count
    | .error e => .error e

/-- Reads the first `count` entries of a rule. -/
def readFirst {ε α : Type} (entry : Nat → Except ε α) (count : Nat) : Except ε (List α) :=
  readFrom entry [] 0 count

/-- Reads the first `count` entries of a sequence. -/
def read {ε α : Type} (count : Nat) : Sequence (Except ε α) → Except ε (List α)
  | listed entries => (entries.take count).mapM id
  | endless entry => readFirst entry count

theorem readFrom_eq {ε α : Type} (entry : Nat → Except ε α) (before : List α) (index count : Nat) :
    readFrom entry before index count =
      ((List.range' index count).mapM entry).map (before.reverse ++ ·) := by
  induction count generalizing before index with
  | zero => simp [readFrom, pure, Except.pure, Except.map]
  | succ count ih =>
    simp only [readFrom, List.range'_succ, List.mapM_cons]
    cases entry index with
    | error e => rfl
    | ok a =>
      simp only [ih]
      cases (List.range' (index + 1) count).mapM entry <;>
        simp [bind, Except.bind, pure, Except.pure, Except.map]

/-- Reading entries one after the other gives the same as making all of them. -/
theorem readFirst_eq_mapM {ε α : Type} (entry : Nat → Except ε α) (count : Nat) :
    readFirst entry count = (List.range count).mapM entry := by
  rw [readFirst, readFrom_eq, List.range_eq_range']
  cases (List.range' 0 count).mapM entry <;> rfl

end Sequence
end LineMeasure
