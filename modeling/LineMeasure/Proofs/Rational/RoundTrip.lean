import LineMeasure.Proofs.Rational.Grammar

/-!
# Rational numbers read back from their texts

The text of a rational number is a literal that stands for it (`isLiteral_text`), and is therefore
read as that number (`ofText?_text`). The text is a sign and one or two groups of decimal digits.
-/

namespace LineMeasure.Rational

/-- A digit differs from every character that is none. -/
lemma ne_of_isDigit {c d : Char} (h : c.isDigit = true) (hd : d.isDigit = false) : c ≠ d := by
  rintro rfl
  exact absurd h (by simp [hd])

/-- A list of digits is a group of them. -/
lemma isGroup_of_isDigit {cs : List Char} (nonempty : cs ≠ []) (h : ∀ c ∈ cs, c.isDigit = true) :
    IsGroup cs (ofDigits (cs.map fun c => c.toNat - '0'.toNat)) cs.length := by
  induction cs with
  | nil => exact absurd rfl nonempty
  | cons c cs ih =>
    have head := Text.digitValue?_of_isDigit (h c List.mem_cons_self)
    rw [List.map_cons, ofDigits_cons, List.length_map]
    cases cs with
    | nil => simpa [ofDigits] using IsGroup.last head
    | cons d rest =>
      exact .digit head (ih (List.cons_ne_nil _ _) fun e he => h e (List.mem_cons_of_mem _ he))

/-- The digits of a natural number are a group, which writes that number. -/
lemma isGroup_toDigits (n : Nat) : IsGroup (Nat.toDigits 10 n) n (Nat.toDigits 10 n).length := by
  have digits := isGroup_of_isDigit Nat.toDigits_ne_nil fun c hc =>
    Nat.isDigit_of_mem_toDigits (n := n) (by decide) (by decide : 10 ≤ 10) hc
  have value : ofDigits ((Nat.toDigits 10 n).map fun c => c.toNat - '0'.toNat) = n := by
    rw [ofDigits, List.foldl_map]
    exact Nat.ofDigitChars_ten_toDigits
  rwa [value] at digits

/-- The digits of a number are none of the characters that are no digits. -/
lemma beq_eq_false_of_mem_toDigits {n : Nat} {c d : Char} (hc : c ∈ Nat.toDigits 10 n)
    (hd : d.isDigit = false) : (c == d) = false :=
  beq_false_of_ne
    (ne_of_isDigit (Nat.isDigit_of_mem_toDigits (by decide) (by decide) hc) hd)

/-- The sign that is written in front of a number. -/
def signText (q : Rat) : List Char :=
  if q.num < 0 then ['-'] else []

/-- The text of a number without its sign. -/
def magnitudeText (q : Rat) : List Char :=
  Nat.toDigits 10 q.num.natAbs ++ if q.den = 1 then [] else '/' :: Nat.toDigits 10 q.den

/-- The characters of the text of a number. -/
lemma toList_text (q : Rat) : (text q).toList = signText q ++ magnitudeText q := by
  have numerator : (toString q.num).toList = signText q ++ Nat.toDigits 10 q.num.natAbs := by
    rw [Int.toString_eq_repr, Int.repr_eq_if, signText]
    by_cases negative : q.num < 0
    · have abs : (-q.num).toNat = q.num.natAbs := by omega
      simp [negative, Int.not_le.2 negative, abs]
    · have abs : q.num.toNat = q.num.natAbs := by omega
      simp [negative, Int.not_lt.1 negative, abs]
  unfold text magnitudeText
  split
  · rw [numerator, List.append_nil]
  · rw [String.toList_append, String.toList_append, numerator]
    simp

/-- The text of a number is a literal that stands for it. -/
lemma isLiteral_text (q : Rat) : IsLiteral (text q).toList q := by
  obtain ⟨s, sign, numerator⟩ : ∃ s, IsSign (signText q) s ∧ s * q.num.natAbs = q.num := by
    unfold signText
    split
    · exact ⟨-1, .minus, by omega⟩
    · exact ⟨1, .absent, by omega⟩
  have value : (s : Rat) * (q.num.natAbs / q.den) = q := by
    rw [← mul_div_assoc, ← Int.cast_natCast q.num.natAbs, ← Int.cast_mul, numerator,
      Rat.num_div_den]
  rw [toList_text, magnitudeText]
  split
  · rename_i den
    rw [den, Nat.cast_one, div_one] at value
    have literal := IsLiteral.decimal sign (.whole (isGroup_toDigits q.num.natAbs)) .absent
    rwa [zpow_zero, mul_one, value] at literal
  · have literal :=
      IsLiteral.quotient sign (isGroup_toDigits q.num.natAbs) (isGroup_toDigits q.den) q.den_nz
    rwa [value] at literal

/-- A number is read back from its text. -/
theorem ofText?_text (q : Rat) : ofText? (text q) = some q := by
  rw [ofText?_eq_some_iff, ← standsFor_iff]
  exact ⟨[], _, [], by simp, by simp, isLiteral_text q⟩

end LineMeasure.Rational
