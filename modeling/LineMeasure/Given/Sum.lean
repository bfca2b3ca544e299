import LineMeasure.Given.Set

/-!
# Sums of given values

The numbers of a sum may be given as values. Each of them is read when its turn comes, and the
finite ones are added up exactly. An infinite one ends the sum, so that what stands behind it is
never read.
-/

namespace LineMeasure.Given

/-- The sum of given numbers, added to a rational one. -/
def sumFrom (total : Rat) : List (Except Error Value) → Except Error ENNRat
  | [] => ENNRat.ofRat total
  | term :: rest => do
    match ← (← term).ennrat with
    | .infinite => return .infinite
    | .finite value _ => sumFrom (total + value) rest

/-- The sum of given numbers, or of the first ones; how many are to be added is looked at before any
of them. -/
def tsum (terms : List (Except Error Value)) (limit : Option Int) : Except Error ENNRat := do
  let count ← count? limit
  sumFrom 0 (count.elim terms (terms.take ·))

end LineMeasure.Given
