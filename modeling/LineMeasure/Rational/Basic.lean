/-!
# Rational numbers

The exact numbers of the library, with the few operations that it adds to the core ones: their text,
integer powers, the larger and the smaller of two, the part above zero, and the increasing list of
the members of a list.
-/

namespace LineMeasure.Rational

/-- The text of a rational number in lowest terms: `3`, `-5/2`. It may have any number of digits: an
interpreter's configurable limit on the digits of an integer is left out. -/
def text (q : Rat) : String :=
  if q.den = 1 then toString q.num else toString q.num ++ "/" ++ toString q.den

/-- An integer power of a natural number. -/
def power (base : Nat) (exponent : Int) : Rat :=
  if 0 ≤ exponent then ((Nat.pow base exponent.toNat : Nat) : Rat)
  else mkRat 1 (Nat.pow base (-exponent).toNat)

/-- The larger of two numbers. -/
def larger (p q : Rat) : Rat :=
  if p ≤ q then q else p

/-- The smaller of two numbers. -/
def smaller (p q : Rat) : Rat :=
  if p ≤ q then p else q

/-- The part above zero. -/
def positivePart (q : Rat) : Rat :=
  larger 0 q

theorem positivePart_nonneg (q : Rat) : 0 ≤ positivePart q := by
  grind [positivePart, larger]

theorem positivePart_of_nonneg {q : Rat} (h : 0 ≤ q) : positivePart q = q := by
  grind [positivePart, larger]

theorem positivePart_of_nonpos {q : Rat} (h : q ≤ 0) : positivePart q = 0 := by
  grind [positivePart, larger]

/-- The number brought up to `low` and then down to `high`, where these are given. -/
def clamp (q : Rat) (low high : Option Rat) : Rat :=
  let raised := low.elim q (larger q)
  high.elim raised (smaller raised)

/-- Whether each number of the list is below the one before it. -/
def isDecreasing : List Rat → Bool
  | p :: q :: rest => decide (q < p) && isDecreasing (q :: rest)
  | _ => true

/-- An increasing list without its repetitions. -/
def dropRepeats : List Rat → List Rat
  | p :: q :: rest => if p = q then dropRepeats (q :: rest) else p :: dropRepeats (q :: rest)
  | qs => qs

/-- The members of a list, in increasing order and each once. -/
def increasing (qs : List Rat) : List Rat :=
  dropRepeats (qs.mergeSort (fun p q => decide (p ≤ q)))

theorem mem_dropRepeats {x : Rat} {qs : List Rat} : x ∈ dropRepeats qs ↔ x ∈ qs := by
  fun_induction dropRepeats qs with
  | case1 p rest ih => simp [ih]
  | case2 p q rest _ ih => simp [ih]
  | case3 => rfl

@[simp]
theorem mem_increasing {x : Rat} {qs : List Rat} : x ∈ increasing qs ↔ x ∈ qs := by
  simp [increasing, mem_dropRepeats]

theorem pairwise_dropRepeats {qs : List Rat} (h : qs.Pairwise (· ≤ ·)) :
    (dropRepeats qs).Pairwise (· < ·) := by
  fun_induction dropRepeats qs with
  | case1 p rest ih => exact ih (List.pairwise_cons.1 h).2
  | case2 p q rest hne ih =>
    obtain ⟨below, h⟩ := List.pairwise_cons.1 h
    refine List.pairwise_cons.2 ⟨fun x hx => ?_, ih h⟩
    have hq : p < q := by
      have := below q (by simp)
      grind
    rcases List.mem_cons.1 (mem_dropRepeats.1 hx) with rfl | hx
    · exact hq
    · have := (List.pairwise_cons.1 h).1 x hx
      grind
  | case3 qs hqs =>
    match qs, hqs with
    | [], _ => exact List.Pairwise.nil
    | [p], _ => simp
    | p :: q :: rest, hqs => exact (hqs p q rest rfl).elim

/-- The list is strictly increasing. -/
theorem pairwise_increasing (qs : List Rat) : (increasing qs).Pairwise (· < ·) := by
  refine pairwise_dropRepeats ?_
  have sorted := @List.pairwise_mergeSort _ (fun p q : Rat => decide (p ≤ q))
    (fun a b c => by simp only [decide_eq_true_eq]; exact Rat.le_trans)
    (fun a b => by simp only [Bool.or_eq_true, decide_eq_true_eq]; exact Rat.le_total) qs
  exact sorted.imp fun h => of_decide_eq_true h

end LineMeasure.Rational
