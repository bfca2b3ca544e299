import LineMeasure.Text.CodePoint

/-!
# The order of texts

Texts are ordered by their code points, from the first one on.
-/

namespace LineMeasure.Text

/-- Whether the first list of code points comes before the second or is equal to it. -/
def codePointsLe : List CodePoint → List CodePoint → Bool
  | [], _ => true
  | _ :: _, [] => false
  | p :: ps, q :: qs => p.value < q.value || (p.value == q.value && codePointsLe ps qs)

/-- Whether the first text comes before the second or is equal to it. -/
def le (s t : String) : Bool :=
  codePointsLe (codePoints s.toList) (codePoints t.toList)

/-- The texts in order. -/
def sorted (ss : List String) : List String :=
  ss.mergeSort le

/-- The pairs of texts, in order of their first and then of their second parts. -/
def sortedPairs (ps : List (String × String)) : List (String × String) :=
  ps.mergeSort fun p q => if p.1 = q.1 then le p.2 q.2 else le p.1 q.1

end LineMeasure.Text
