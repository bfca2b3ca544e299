/-!
# Code points

A text is a list of code points. Most of them are characters; halves of surrogate pairs, U+D800 to
U+DFFF, are code points as well when they stand alone, but no characters. A half is held in a text
by a marker and a character behind it, and the marker itself is written twice where it is meant as a
character. So texts without markers are held as they are, texts are joined by joining what holds
them, and `codePoints_hold` says that the code points can be read back.
-/

namespace LineMeasure.Text

/-- A code point: a character, or half of a surrogate pair, by its number among the halves. -/
inductive CodePoint where
  | char (c : Char)
  | half (n : Fin 0x800)
  deriving DecidableEq

/-- The noncharacter that announces half of a surrogate pair. -/
def marker : Char := '\uFFFF'

namespace CodePoint

/-- The number of a code point. -/
def value : CodePoint → Nat
  | char c => c.toNat
  | half n => 0xD800 + n.val

/-- The code point of a number. -/
def ofNat (n : Nat) : CodePoint :=
  if h : 0xD800 ≤ n ∧ n < 0xE000 then half ⟨n - 0xD800, by omega⟩ else char (Char.ofNat n)

/-- The characters that hold a code point. -/
def held : CodePoint → List Char
  | char c => if c = marker then [marker, marker] else [c]
  | half n => [marker, Char.ofNat (0xE000 + n.val)]

end CodePoint

/-- The characters that hold code points. -/
def hold (ps : List CodePoint) : List Char :=
  ps.flatMap CodePoint.held

/-- The half of a surrogate pair that a character stands for behind a marker. -/
def halfOf? (c : Char) : Option (Fin 0x800) :=
  if h : 0xE000 ≤ c.toNat ∧ c.toNat < 0xE800 then some ⟨c.toNat - 0xE000, by omega⟩ else none

/-- The code points that characters hold. -/
def codePoints : List Char → List CodePoint
  | [] => []
  | [c] => [.char c]
  | c :: d :: rest =>
    if c = marker then
      if d = marker then .char marker :: codePoints rest
      else
        match halfOf? d with
        | some n => .half n :: codePoints rest
        | none => .char c :: codePoints (d :: rest)
    else .char c :: codePoints (d :: rest)

/-- Whether halves of surrogate pairs stand alone among code points. -/
def hasHalf (ps : List CodePoint) : Bool :=
  ps.any fun p => match p with
    | .half _ => true
    | .char _ => false

/-- Whether a code point lies in one of some ranges, each given by its ends. -/
def isInRanges (ranges : List (Nat × Nat)) (n : Nat) : Bool :=
  ranges.any fun range => range.1 ≤ n && n ≤ range.2

/-- The character behind the marker gives back the half that it stands for. -/
theorem toNat_held_half (n : Fin 0x800) : (Char.ofNat (0xE000 + n.val)).toNat = 0xE000 + n.val := by
  have valid : (0xE000 + n.val).isValidChar := .inr ⟨by omega, by omega⟩
  rw [Char.ofNat, dif_pos valid]
  rfl

theorem halfOf?_held (n : Fin 0x800) : halfOf? (Char.ofNat (0xE000 + n.val)) = some n := by
  have range : 0xE000 ≤ 0xE000 + n.val ∧ 0xE000 + n.val < 0xE800 := by omega
  simp only [halfOf?, toNat_held_half, range, and_self, dite_true]
  exact congrArg some (Fin.ext (Nat.add_sub_cancel_left 0xE000 n.val))

theorem held_half_ne_marker (n : Fin 0x800) : Char.ofNat (0xE000 + n.val) ≠ marker := by
  intro h
  have number := congrArg Char.toNat h
  rw [toNat_held_half, show marker.toNat = 0xFFFF from rfl] at number
  omega

/-- A code point at the beginning of a text is read first. -/
theorem codePoints_held_append (p : CodePoint) (cs : List Char) :
    codePoints (p.held ++ cs) = p :: codePoints cs := by
  cases p with
  | char c =>
    by_cases h : c = marker
    · subst h
      rw [CodePoint.held, if_pos rfl]
      simp only [List.cons_append, List.nil_append, codePoints, if_true]
    · rw [CodePoint.held, if_neg h]
      cases cs with
      | nil => rfl
      | cons d cs => simp only [List.cons_append, List.nil_append, codePoints, if_neg h]
  | half n =>
    simp only [CodePoint.held, List.cons_append, List.nil_append, codePoints, if_true,
      if_neg (held_half_ne_marker n), halfOf?_held]

/-- The code points of a text are read back from the characters that hold it. -/
theorem codePoints_hold (ps : List CodePoint) : codePoints (hold ps) = ps := by
  induction ps with
  | nil => rfl
  | cons p ps ih => rw [hold, List.flatMap_cons, codePoints_held_append]; exact congrArg (p :: ·) ih

end LineMeasure.Text
