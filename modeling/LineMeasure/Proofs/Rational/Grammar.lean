import LineMeasure.Error
import Mathlib.Algebra.Order.Field.Rat
import Mathlib.Data.Rat.Lemmas
import Mathlib.Tactic.FieldSimp
import Mathlib.Tactic.Lemma
import Mathlib.Tactic.Ring

/-!
# The grammar of rational literals

`IsLiteral cs q` says by rules which texts are literals, and which number each of them stands for. A
group of digits is read positionally; what stands behind the point counts in negative powers of ten.
The reader accepts exactly the literals between blanks and gives their values
(`ofText?_eq_some_iff`): what it accepts is a literal, since each cut puts its parts back together,
and it accepts every literal, since no part holds a character that a cut looks for.
-/

namespace LineMeasure.Text

/-- No decimal digit is a blank. -/
lemma isBlank_of_digitValue? {c : Char} {d : Nat} (h : digitValue? c = some d) :
    isBlank c = false := by
  have blocks : ∀ base ∈ digitZeros, ∀ i < 10, isBlank (Char.ofNat (base + i)) = false := by
    decide +kernel
  obtain ⟨base, listed, inside⟩ := List.exists_of_findSome?_eq_some h
  split at inside
  · rename_i range
    have digit := blocks base listed (c.toNat - base) (by omega)
    rwa [Nat.add_sub_cancel' range.1, Char.ofNat_toNat] at digit
  · cases inside

/-- Blanks around a text without blanks are removed. -/
lemma trim_between {front core back : List Char} (padding : ∀ c ∈ front ++ back, isBlank c = true)
    (nonempty : core ≠ []) (plain : ∀ c ∈ core, isBlank c = false) :
    trim (front ++ core ++ back) = core := by
  -- a text that begins with a character of the core loses nothing at its beginning
  have kept (cs rest : List Char) (ne : cs ≠ []) (h : ∀ c ∈ cs, isBlank c = false) :
      (cs ++ rest).dropWhile isBlank = cs ++ rest := by
    obtain ⟨c, cs, rfl⟩ := List.exists_cons_of_ne_nil ne
    rw [List.cons_append, List.dropWhile_cons_of_neg (by simp [h c])]
  have front_blank : ∀ c ∈ front, isBlank c = true :=
    fun c hc => padding c (List.mem_append_left _ hc)
  have back_blank : ∀ c ∈ back.reverse, isBlank c = true := fun c hc =>
    padding c (List.mem_append_right _ (List.mem_reverse.1 hc))
  have reversed := kept core.reverse [] (by simpa using nonempty) (by simpa using plain)
  rw [trim, List.append_assoc, List.dropWhile_append_of_pos front_blank,
    kept core back nonempty plain, List.reverse_append, List.dropWhile_append_of_pos back_blank]
  rw [List.append_nil] at reversed
  rw [reversed, List.reverse_reverse]

/-- Only blanks are removed. -/
lemma exists_padding (cs : List Char) :
    ∃ front back, cs = front ++ trim cs ++ back ∧ ∀ c ∈ front ++ back, isBlank c = true := by
  have taken (ds : List Char) : ∀ c ∈ ds.takeWhile isBlank, isBlank c = true :=
    List.all_eq_true.1 List.all_takeWhile
  refine ⟨cs.takeWhile isBlank, ((cs.dropWhile isBlank).reverse.takeWhile isBlank).reverse, ?_,
    fun c hc => ?_⟩
  · rw [trim, List.append_assoc, ← List.reverse_append, List.takeWhile_append_dropWhile,
      List.reverse_reverse, List.takeWhile_append_dropWhile]
  · rcases List.mem_append.1 hc with front | back
    · exact taken _ c front
    · exact taken _ c (List.mem_reverse.1 back)

end LineMeasure.Text

namespace LineMeasure.Rational

/-- A group of decimal digits, with single underscores between some of them, the number that it
writes, and how many digits it has. -/
inductive IsGroup : List Char → Nat → Nat → Prop where
  | last {c d} :
    Text.digitValue? c = some d →
    IsGroup [c] d 1
  | digit {c d cs n k} :
    Text.digitValue? c = some d →
    IsGroup cs n k →
    IsGroup (c :: cs) (d * 10 ^ k + n) (k + 1)
  | underscore {c d cs n k} :
    Text.digitValue? c = some d →
    IsGroup cs n k →
    IsGroup (c :: '_' :: cs) (d * 10 ^ k + n) (k + 1)

/-- An optional sign, with the factor that it stands for. -/
inductive IsSign : List Char → Int → Prop where
  | absent : IsSign [] 1
  | plus : IsSign ['+'] 1
  | minus : IsSign ['-'] (-1)

/-- Digits with an optional point, before or behind which there may be none, with their value. -/
inductive IsMantissa : List Char → Rat → Prop where
  | whole {w n j} :
    IsGroup w n j →
    IsMantissa w n
  | point {w n j} :
    IsGroup w n j →
    IsMantissa (w ++ ['.']) n
  | decimal {w n j f m k} :
    IsGroup w n j →
    IsGroup f m k →
    IsMantissa (w ++ '.' :: f) (n + m / 10 ^ k)
  | fraction {f m k} :
    IsGroup f m k →
    IsMantissa ('.' :: f) (m / 10 ^ k)

/-- An optional power of ten, with its exponent. -/
inductive IsExponent : List Char → Int → Prop where
  | absent : IsExponent [] 0
  | given {letter sign s g n k} :
    letter = 'e' ∨ letter = 'E' →
    IsSign sign s →
    IsGroup g n k →
    IsExponent (letter :: (sign ++ g)) (s * n)

/-- A literal, with the number that it stands for. -/
inductive IsLiteral : List Char → Rat → Prop where
  | quotient {sign s num n j den d k} :
    IsSign sign s →
    IsGroup num n j →
    IsGroup den d k →
    d ≠ 0 →
    IsLiteral (sign ++ (num ++ '/' :: den)) (s * (n / d))
  | decimal {sign s m q e x} :
    IsSign sign s →
    IsMantissa m q →
    IsExponent e x →
    IsLiteral (sign ++ (m ++ e)) (s * (q * 10 ^ x))

section Values

lemma foldl_digits (start : Nat) (ds : List Nat) :
    ds.foldl (fun n d => 10 * n + d) start = start * 10 ^ ds.length + ofDigits ds := by
  induction ds generalizing start with
  | nil => simp [ofDigits]
  | cons d ds ih =>
    have head := ih (10 * 0 + d)
    rw [ofDigits, List.foldl_cons, List.foldl_cons, ih, head, List.length_cons, pow_succ]
    ring

/-- Digits before others count in powers of ten. -/
lemma ofDigits_append (ds es : List Nat) :
    ofDigits (ds ++ es) = ofDigits ds * 10 ^ es.length + ofDigits es := by
  rw [ofDigits, List.foldl_append, foldl_digits]
  rfl

lemma ofDigits_cons (d : Nat) (ds : List Nat) :
    ofDigits (d :: ds) = d * 10 ^ ds.length + ofDigits ds := by
  have single : ofDigits [d] = d := by simp [ofDigits]
  rw [← List.singleton_append, ofDigits_append, single]

/-- Integer powers are those of the field of rational numbers. -/
lemma power_eq_zpow (base : Nat) (x : Int) : power base x = (base : Rat) ^ x := by
  unfold power
  split
  · rename_i nonneg
    obtain ⟨n, rfl⟩ := Int.eq_ofNat_of_zero_le nonneg
    simp
  · rename_i negative
    obtain ⟨n, hn⟩ := Int.eq_ofNat_of_zero_le (a := -x) (by omega)
    obtain rfl : x = -n := by omega
    simp [Rat.mkRat_eq_div]

/-- The value of a decimal is that of its digits around the point, times the power of ten. -/
lemma value?_decimal (whole fraction : List Nat) (x : Int) :
    (Magnitude.decimal whole fraction x).value? =
      some (((ofDigits whole : Rat) + ofDigits fraction / 10 ^ fraction.length) * 10 ^ x) := by
  have ten : (10 : Rat) ≠ 0 := by norm_num
  rw [Magnitude.value?, ofDigits_append, power_eq_zpow, Nat.cast_ofNat, zpow_sub₀ ten, zpow_natCast]
  push_cast
  congr 1
  field_simp

end Values

section Groups
variable {cs : List Char} {c : Char} {n k : Nat}

/-- The characters that a group may hold. -/
def IsGroupChar (c : Char) : Prop :=
  c = '_' ∨ (Text.digitValue? c).isSome = true

instance (c : Char) : Decidable (IsGroupChar c) :=
  inferInstanceAs (Decidable (_ ∨ _))

/-- A group begins with a digit. -/
lemma IsGroup.exists_head (group : IsGroup cs n k) :
    ∃ c d rest, cs = c :: rest ∧ Text.digitValue? c = some d := by
  cases group with
  | last hd => exact ⟨_, _, _, rfl, hd⟩
  | digit hd _ => exact ⟨_, _, _, rfl, hd⟩
  | underscore hd _ => exact ⟨_, _, _, rfl, hd⟩

lemma IsGroup.isGroupChar (group : IsGroup cs n k) (hc : c ∈ cs) : IsGroupChar c := by
  have digit {d e} (hd : Text.digitValue? e = some d) : IsGroupChar e := .inr (by rw [hd]; rfl)
  induction group with
  | last hd =>
    obtain rfl := List.mem_singleton.1 hc
    exact digit hd
  | digit hd _ ih =>
    rcases List.mem_cons.1 hc with rfl | hc
    · exact digit hd
    · exact ih hc
  | underscore hd _ ih =>
    rcases List.mem_cons.1 hc with rfl | hc
    · exact digit hd
    · rcases List.mem_cons.1 hc with rfl | hc
      · exact .inl rfl
      · exact ih hc

lemma isBlank_of_isGroupChar (h : IsGroupChar c) : Text.isBlank c = false := by
  rcases h with rfl | digit
  · decide
  · obtain ⟨d, hd⟩ := Option.isSome_iff_exists.1 digit
    exact Text.isBlank_of_digitValue? hd

/-- What is read as a group is one, with its number and as many digits as were read. -/
lemma isGroup_of_digitGroup? {ds : List Nat} (read : digitGroup? cs = some ds) :
    IsGroup cs (ofDigits ds) ds.length := by
  induction cs using digitGroup?.induct generalizing ds with
  | case1 => cases read
  | case2 c rest ih =>
    rw [digitGroup?] at read
    obtain ⟨d, hd, read⟩ := Option.bind_eq_some_iff.1 read
    split at read
    · cases read
      have single : ofDigits [d] = d := by simp [ofDigits]
      rw [single]
      exact .last hd
    · obtain ⟨es, later, read⟩ := Option.bind_eq_some_iff.1 read
      cases read
      rw [ofDigits_cons]
      exact .underscore hd (ih later)
    · obtain ⟨es, later, read⟩ := Option.bind_eq_some_iff.1 read
      cases read
      rw [ofDigits_cons]
      refine .digit hd ?_
      split at ih
      · cases later
      · rename_i plain _
        exact absurd rfl (plain _)
      · exact ih later

/-- Every group is read, digit by digit. -/
lemma IsGroup.exists_read (group : IsGroup cs n k) :
    ∃ ds, digitGroup? cs = some ds ∧ ofDigits ds = n ∧ ds.length = k := by
  induction group with
  | @last c d hd => exact ⟨[d], by simp [digitGroup?, hd], by simp [ofDigits], rfl⟩
  | @digit c d cs _ _ hd group ih =>
    obtain ⟨ds, read, rfl, rfl⟩ := ih
    refine ⟨d :: ds, ?_, ofDigits_cons d ds, rfl⟩
    -- the group behind the digit begins with a digit, and so not with an underscore
    obtain ⟨e, _, rest, rfl, he⟩ := group.exists_head
    rw [digitGroup?, hd]
    simp only [Option.bind_eq_bind, Option.bind_some]
    split
    · rename_i eq
      cases eq
    · rename_i eq
      cases eq
      cases he
    · rw [read]
      rfl
  | @underscore c d cs _ _ hd _ ih =>
    obtain ⟨ds, read, rfl, rfl⟩ := ih
    exact ⟨d :: ds, by simp [digitGroup?, hd, read], ofDigits_cons d ds, rfl⟩

end Groups

section Cuts
variable {p : Char → Bool} {cs before after : List Char}

/-- There is nothing to cut at when no character is of the kind. -/
lemma cutAt_of_none (h : ∀ c ∈ cs, p c = false) :
    cutAt p cs = (cs, none) := by
  induction cs with
  | nil => rfl
  | cons c cs ih => simp [cutAt, h c, ih fun d hd => h d (List.mem_cons_of_mem _ hd)]

/-- The cut is at the first character of the kind. -/
lemma cutAt_append {rest : List Char} {c : Char} (h : ∀ d ∈ cs, p d = false)
    (hc : p c = true) : cutAt p (cs ++ c :: rest) = (cs, some rest) := by
  induction cs with
  | nil => simp [cutAt, hc]
  | cons d cs ih => simp [cutAt, h d, ih fun e he => h e (List.mem_cons_of_mem _ he)]

/-- Where nothing is cut, all is kept. -/
lemma eq_of_cutAt_none (cut : cutAt p cs = (before, none)) : cs = before := by
  induction cs generalizing before with
  | nil =>
    cases cut
    rfl
  | cons c cs ih =>
    rw [cutAt] at cut
    split at cut
    · cases cut
    · obtain ⟨rfl, rest⟩ := Prod.mk.inj cut
      exact congrArg (c :: ·) (ih (Prod.ext rfl rest))

/-- The two sides of a cut, with a character of the kind between them, are the text again. -/
lemma eq_of_cutAt_some (cut : cutAt p cs = (before, some after)) :
    ∃ c, p c = true ∧ cs = before ++ c :: after := by
  induction cs generalizing before with
  | nil => cases cut
  | cons c cs ih =>
    rw [cutAt] at cut
    split at cut
    · rename_i kind
      cases cut
      exact ⟨c, kind, rfl⟩
    · obtain ⟨rfl, rest⟩ := Prod.mk.inj cut
      obtain ⟨e, kind, eq⟩ := ih (Prod.ext rfl rest)
      exact ⟨e, kind, congrArg (c :: ·) eq⟩

/-- What is taken off as the sign of a text is one, and the rest is what follows it. -/
lemma exists_sign {rest : List Char} {negative : Bool} (split : splitSign cs = (negative, rest)) :
    ∃ sign, IsSign sign (if negative then -1 else 1) ∧ cs = sign ++ rest := by
  unfold splitSign at split
  split at split <;> cases split
  · exact ⟨['-'], .minus, rfl⟩
  · exact ⟨['+'], .plus, rfl⟩
  · exact ⟨[], .absent, rfl⟩

/-- A sign is taken off what begins with no other sign. -/
lemma IsSign.split {sign body : List Char} {s : Int} (hs : IsSign sign s)
    (unsigned : ∀ c ∈ body.head?, c ≠ '-' ∧ c ≠ '+') :
    ∃ negative, splitSign (sign ++ body) = (negative, body) ∧ s = if negative then -1 else 1 := by
  cases hs with
  | absent =>
    refine ⟨false, ?_, rfl⟩
    rw [List.nil_append]
    unfold splitSign
    split
    · exact absurd rfl (unsigned _ rfl).1
    · exact absurd rfl (unsigned _ rfl).2
    · rfl
  | plus => exact ⟨false, rfl, rfl⟩
  | minus => exact ⟨true, rfl, rfl⟩

end Cuts

section Parts
variable {cs : List Char} {c : Char} {q : Rat} {x : Int}

lemma IsMantissa.char (mantissa : IsMantissa cs q) (hc : c ∈ cs) : c = '.' ∨ IsGroupChar c := by
  cases mantissa with
  | whole hw => exact .inr (hw.isGroupChar hc)
  | point hw =>
    rcases List.mem_append.1 hc with hc | hc
    · exact .inr (hw.isGroupChar hc)
    · exact .inl (List.mem_singleton.1 hc)
  | decimal hw hf =>
    rcases List.mem_append.1 hc with hc | hc
    · exact .inr (hw.isGroupChar hc)
    · exact (List.mem_cons.1 hc).imp_right hf.isGroupChar
  | fraction hf => exact (List.mem_cons.1 hc).imp_right hf.isGroupChar

lemma IsMantissa.ne_nil (mantissa : IsMantissa cs q) : cs ≠ [] := by
  cases mantissa with
  | whole hw =>
    obtain ⟨_, _, _, rfl, -⟩ := hw.exists_head
    exact List.cons_ne_nil _ _
  | point _ => simp
  | decimal _ _ => simp
  | fraction _ => exact List.cons_ne_nil _ _

lemma IsSign.char {s : Int} (sign : IsSign cs s) (hc : c ∈ cs) : c = '+' ∨ c = '-' := by
  cases sign with
  | absent => cases hc
  | plus => exact .inl (List.mem_singleton.1 hc)
  | minus => exact .inr (List.mem_singleton.1 hc)

lemma IsExponent.char (exponent : IsExponent cs x) (hc : c ∈ cs) :
    c ∈ ['e', 'E', '+', '-'] ∨ IsGroupChar c := by
  cases exponent with
  | absent => cases hc
  | given letter sign group =>
    rcases List.mem_cons.1 hc with rfl | hc
    · rcases letter with rfl | rfl <;> exact .inl (by decide)
    · rcases List.mem_append.1 hc with hc | hc
      · rcases sign.char hc with rfl | rfl <;> exact .inl (by decide)
      · exact .inr (group.isGroupChar hc)

/-- What is read as an exponent is one, behind the letter for it. -/
lemma isExponent_of_exponent? (letter : c = 'e' ∨ c = 'E') (read : exponent? cs = some x) :
    IsExponent (c :: cs) x := by
  rcases split : splitSign cs with ⟨negative, group⟩
  obtain ⟨sign, hs, rfl⟩ := exists_sign split
  simp only [exponent?, split] at read
  obtain ⟨ds, digits, value⟩ := Option.bind_eq_some_iff.1 read
  have exponent := IsExponent.given letter hs (isGroup_of_digitGroup? digits)
  cases value
  cases negative <;> simpa using exponent

/-- Every exponent is read. -/
lemma exponent?_of_isSign {sign group : List Char} {s : Int} {n k : Nat} (hs : IsSign sign s)
    (hg : IsGroup group n k) : exponent? (sign ++ group) = some (s * n) := by
  obtain ⟨c, d, rest, rfl, hd⟩ := hg.exists_head
  obtain ⟨ds, read, rfl, rfl⟩ := hg.exists_read
  have unsigned : ∀ e ∈ (c :: rest).head?, e ≠ '-' ∧ e ≠ '+' := by
    rintro e ⟨⟩
    constructor <;> (rintro rfl; cases hd)
  obtain ⟨negative, split, rfl⟩ := hs.split unsigned
  cases negative <;> simp [exponent?, split, read]

/-- What is read as a mantissa is one, with the value of the digits that were read. -/
lemma isMantissa_of_mantissa? {whole fraction : List Nat}
    (read : mantissa? cs = some (whole, fraction)) :
    IsMantissa cs (ofDigits whole + ofDigits fraction / 10 ^ fraction.length) := by
  have nothing : ofDigits [] = 0 := rfl
  have dot {before after : List Char} (cut : cutAt (· == '.') cs = (before, some after)) :
      cs = before ++ '.' :: after := by
    obtain ⟨e, point, eq⟩ := eq_of_cutAt_some cut
    rw [eq, eq_of_beq point]
  unfold mantissa? at read
  split at read
  · rename_i before cut
    obtain ⟨ds, group, eq⟩ := Option.bind_eq_some_iff.1 read
    cases eq
    obtain rfl := eq_of_cutAt_none cut
    simpa [nothing] using IsMantissa.whole (isGroup_of_digitGroup? group)
  · rename_i after cut
    obtain ⟨ds, group, eq⟩ := Option.bind_eq_some_iff.1 read
    cases eq
    rw [dot cut]
    simpa [nothing] using IsMantissa.fraction (isGroup_of_digitGroup? group)
  · rename_i before _ cut
    obtain ⟨ds, group, eq⟩ := Option.bind_eq_some_iff.1 read
    cases eq
    rw [dot cut]
    simpa [nothing] using IsMantissa.point (isGroup_of_digitGroup? group)
  · rename_i before after _ _ cut
    obtain ⟨ds, group, read⟩ := Option.bind_eq_some_iff.1 read
    obtain ⟨es, later, eq⟩ := Option.bind_eq_some_iff.1 read
    cases eq
    rw [dot cut]
    exact .decimal (isGroup_of_digitGroup? group) (isGroup_of_digitGroup? later)

/-- Every mantissa is read. -/
lemma IsMantissa.exists_read (mantissa : IsMantissa cs q) :
    ∃ whole fraction, mantissa? cs = some (whole, fraction) ∧
      (ofDigits whole + ofDigits fraction / 10 ^ fraction.length : Rat) = q := by
  have nothing : ofDigits [] = 0 := rfl
  -- no character of a group is the point
  have noDot {group : List Char} {n k : Nat} (hg : IsGroup group n k) :
      ∀ e ∈ group, (e == '.') = false := by
    intro e he
    apply beq_false_of_ne
    rintro rfl
    exact absurd (hg.isGroupChar he) (by decide)
  cases mantissa with
  | whole hw =>
    obtain ⟨ds, read, rfl, rfl⟩ := hw.exists_read
    exact ⟨ds, [], by simp [mantissa?, cutAt_of_none (noDot hw), read], by simp [nothing]⟩
  | @point w _ _ hw =>
    have cut : cutAt (· == '.') (w ++ ['.']) = (w, some []) := cutAt_append (noDot hw) rfl
    obtain ⟨e, _, rest, rfl, -⟩ := hw.exists_head
    obtain ⟨ds, read, rfl, rfl⟩ := hw.exists_read
    refine ⟨ds, [], ?_, by simp [nothing]⟩
    rw [mantissa?, cut]
    simp [read]
  | @decimal w _ _ f _ _ hw hf =>
    have cut : cutAt (· == '.') (w ++ '.' :: f) = (w, some f) := cutAt_append (noDot hw) rfl
    obtain ⟨e, _, rest, rfl, -⟩ := hw.exists_head
    obtain ⟨f, _, later, rfl, -⟩ := hf.exists_head
    obtain ⟨ds, readWhole, rfl, rfl⟩ := hw.exists_read
    obtain ⟨es, readFraction, rfl, rfl⟩ := hf.exists_read
    refine ⟨ds, es, ?_, rfl⟩
    rw [mantissa?, cut]
    simp [readWhole, readFraction]
  | @fraction f _ _ hf =>
    have cut : cutAt (· == '.') ('.' :: f) = ([], some f) := rfl
    obtain ⟨es, read, rfl, rfl⟩ := hf.exists_read
    exact ⟨[], es, by simp [mantissa?, cut, read], by simp [nothing]⟩

end Parts

section Literals
variable {cs sign : List Char} {s : Int} {q : Rat}

/-- What is read as a magnitude is, behind a sign, a literal. -/
lemma isLiteral_of_magnitude? {m : Magnitude} (hs : IsSign sign s) (read : magnitude? cs = some m)
    (value : m.value? = some q) : IsLiteral (sign ++ cs) (s * q) := by
  unfold magnitude? at read
  split at read
  · rename_i numerator denominator cut
    obtain ⟨c, slash, rfl⟩ := eq_of_cutAt_some cut
    obtain ⟨ns, num, read⟩ := Option.bind_eq_some_iff.1 read
    obtain ⟨ds, den, eq⟩ := Option.bind_eq_some_iff.1 read
    cases eq
    rw [Magnitude.value?] at value
    split at value
    · cases value
    · rename_i nonzero
      cases value
      rw [eq_of_beq slash, Rat.mkRat_eq_div, Int.cast_natCast]
      exact .quotient hs (isGroup_of_digitGroup? num) (isGroup_of_digitGroup? den) nonzero
  · rename_i decimal cut
    obtain rfl := eq_of_cutAt_none cut
    -- the mantissa stands before the letter, and behind it the exponent, if there is one
    rcases split : cutAt (fun c => c == 'e' || c == 'E') cs with ⟨mantissa, power⟩
    simp only [split] at read
    obtain ⟨⟨whole, fraction⟩, digits, read⟩ := Option.bind_eq_some_iff.1 read
    obtain ⟨x, exponent, eq⟩ := Option.bind_eq_some_iff.1 read
    cases eq
    rw [value?_decimal] at value
    cases value
    have parts := isMantissa_of_mantissa? digits
    cases power with
    | none =>
      cases exponent
      obtain rfl := eq_of_cutAt_none split
      simpa using IsLiteral.decimal hs parts .absent
    | some power =>
      obtain ⟨c, letter, rfl⟩ := eq_of_cutAt_some split
      exact .decimal hs parts (isExponent_of_exponent? (by simpa using letter) exponent)

/-- What is read as a literal with a value is one with this value. -/
lemma isLiteral_of_literal? {l : Literal} (read : literal? cs = some l)
    (value : l.value? = some q) :
    IsLiteral cs q := by
  rcases split : splitSign cs with ⟨negative, rest⟩
  simp only [literal?, split] at read
  obtain ⟨m, magnitude, eq⟩ := Option.bind_eq_some_iff.1 read
  cases eq
  obtain ⟨p, unsigned, rfl⟩ := Option.map_eq_some_iff.1 value
  obtain ⟨sign, hs, rfl⟩ := exists_sign split
  have literal := isLiteral_of_magnitude? hs magnitude unsigned
  cases negative <;> simpa using literal

/-- Every quotient by a number other than zero is read. -/
lemma exists_read_quotient {num den : List Char} {n j d k : Nat} (hn : IsGroup num n j)
    (hd : IsGroup den d k) (nonzero : d ≠ 0) :
    ∃ m, magnitude? (num ++ '/' :: den) = some m ∧ m.value? = some (n / d : Rat) := by
  have cut : cutAt (· == '/') (num ++ '/' :: den) = (num, some den) := by
    refine cutAt_append (fun e he => beq_false_of_ne ?_) rfl
    rintro rfl
    exact absurd (hn.isGroupChar he) (by decide)
  obtain ⟨ns, numerator, rfl, rfl⟩ := hn.exists_read
  obtain ⟨ds, denominator, rfl, rfl⟩ := hd.exists_read
  refine ⟨.quotient ns ds, ?_, ?_⟩
  · rw [magnitude?, cut]
    simp [numerator, denominator]
  · simp [Magnitude.value?, nonzero, Rat.mkRat_eq_div]

/-- Every decimal is read. -/
lemma exists_read_decimal {mantissa exponent : List Char} {x : Int} (hm : IsMantissa mantissa q)
    (he : IsExponent exponent x) :
    ∃ m, magnitude? (mantissa ++ exponent) = some m ∧ m.value? = some (q * 10 ^ x) := by
  have noSlash : cutAt (· == '/') (mantissa ++ exponent) = (mantissa ++ exponent, none) := by
    refine cutAt_of_none fun c hc => beq_false_of_ne ?_
    rintro rfl
    rcases List.mem_append.1 hc with hc | hc
    · exact absurd (hm.char hc) (by decide)
    · exact absurd (he.char hc) (by decide)
  have noLetter : ∀ c ∈ mantissa, (c == 'e' || c == 'E') = false := by
    intro c hc
    rw [Bool.or_eq_false_iff]
    constructor <;> apply beq_false_of_ne <;> rintro rfl <;> exact absurd (hm.char hc) (by decide)
  obtain ⟨whole, fraction, read, rfl⟩ := hm.exists_read
  refine ⟨.decimal whole fraction x, ?_, value?_decimal whole fraction x⟩
  rw [magnitude?, noSlash]
  cases he with
  | absent => simp [cutAt_of_none noLetter, read]
  | @given letter sign s group n k isLetter hs hg =>
    have cut : cutAt (fun c => c == 'e' || c == 'E') (mantissa ++ letter :: (sign ++ group)) =
        (mantissa, some (sign ++ group)) := cutAt_append noLetter (by simpa using isLetter)
    simp [cut, read, exponent?_of_isSign hs hg]

/-- A sign and a magnitude that does not begin with one are read together. -/
lemma exists_read_signed {body : List Char} (hs : IsSign sign s)
    (unsigned : ∀ c ∈ body.head?, c ≠ '-' ∧ c ≠ '+')
    (read : ∃ m, magnitude? body = some m ∧ m.value? = some q) :
    ∃ l, literal? (sign ++ body) = some l ∧ l.value? = some (s * q) := by
  obtain ⟨m, magnitude, value⟩ := read
  obtain ⟨negative, split, rfl⟩ := hs.split unsigned
  refine ⟨⟨negative, m⟩, by simp [literal?, split, magnitude], ?_⟩
  cases negative <;> simp [Literal.value?, value]

/-- Every literal is read, and its value is the number that it stands for. -/
lemma IsLiteral.exists_read (literal : IsLiteral cs q) :
    ∃ l, literal? cs = some l ∧ l.value? = some q := by
  cases literal with
  | quotient hs hn hd nonzero =>
    refine exists_read_signed hs (fun c hc => ?_) (exists_read_quotient hn hd nonzero)
    obtain ⟨e, _, rest, rfl, digit⟩ := hn.exists_head
    cases hc
    constructor <;> (rintro rfl; cases digit)
  | decimal hs hm he =>
    refine exists_read_signed hs (fun c hc => ?_) (exists_read_decimal hm he)
    -- the mantissa has a first character, which is a point or belongs to a group
    obtain ⟨e, rest, rfl⟩ := List.exists_cons_of_ne_nil hm.ne_nil
    cases hc
    have first := hm.char List.mem_cons_self
    constructor <;> (rintro rfl; exact absurd first (by decide))

/-- No literal holds a blank. -/
lemma IsLiteral.isBlank_eq_false (literal : IsLiteral cs q) {c : Char} (hc : c ∈ cs) :
    Text.isBlank c = false := by
  have ofSign {sign : List Char} {s : Int} (hs : IsSign sign s) (hc : c ∈ sign) :
      Text.isBlank c = false := by
    rcases hs.char hc with rfl | rfl <;> decide
  cases literal with
  | quotient hs hn hd _ =>
    rcases List.mem_append.1 hc with hc | hc
    · exact ofSign hs hc
    · rcases List.mem_append.1 hc with hc | hc
      · exact isBlank_of_isGroupChar (hn.isGroupChar hc)
      · rcases List.mem_cons.1 hc with rfl | hc
        · decide
        · exact isBlank_of_isGroupChar (hd.isGroupChar hc)
  | decimal hs hm he =>
    rcases List.mem_append.1 hc with hc | hc
    · exact ofSign hs hc
    · rcases List.mem_append.1 hc with hc | hc
      · rcases hm.char hc with rfl | hc
        · decide
        · exact isBlank_of_isGroupChar hc
      · rcases he.char hc with hc | hc
        · simp only [List.mem_cons, List.not_mem_nil, or_false] at hc
          rcases hc with rfl | rfl | rfl | rfl <;> decide
        · exact isBlank_of_isGroupChar hc

lemma IsLiteral.ne_nil (literal : IsLiteral cs q) : cs ≠ [] := by
  cases literal with
  | quotient _ _ _ _ => simp
  | decimal _ hm _ => simp [hm.ne_nil]

/-- A text is read as a number exactly when it is, without the blanks around it, a literal that
stands for it. -/
theorem ofText?_eq_some_iff {text : String} :
    ofText? text = some q ↔ IsLiteral (Text.trim text.toList) q := by
  constructor
  · intro read
    obtain ⟨l, literal, value⟩ := Option.bind_eq_some_iff.1 read
    exact isLiteral_of_literal? literal value
  · intro literal
    obtain ⟨l, read, value⟩ := literal.exists_read
    rw [ofText?, read, Option.bind_some, value]

/-- A quotient takes no power of ten, and underscores stand between digits only. -/
example :
    ofText? " -1_0.e-1\n" = some (-1) ∧ ofText? "1/2e3" = none ∧ ofText? "1__0" = none := by
  decide +kernel

/-- The text is a literal between blanks, which stands for the number. -/
def StandsFor (text : String) (q : Rat) : Prop :=
  ∃ front core back, text.toList = front ++ core ++ back ∧
    (∀ c ∈ front ++ back, Text.isBlank c = true) ∧
    IsLiteral core q

lemma standsFor_iff {text : String} : StandsFor text q ↔ IsLiteral (Text.trim text.toList) q := by
  constructor
  · rintro ⟨front, core, back, eq, padding, literal⟩
    rw [eq, Text.trim_between padding literal.ne_nil fun c => literal.isBlank_eq_false]
    exact literal
  · intro literal
    obtain ⟨front, back, eq, padding⟩ := Text.exists_padding text.toList
    exact ⟨front, _, back, eq, padding, literal⟩

end Literals

/-- A given text is a number exactly when it is a literal between blanks. -/
theorem literals_accepted (name text : String) :
    (∀ q, (Value.text text).real name = .ok q ↔ StandsFor text q) ∧
      ((∀ q, ¬ StandsFor text q) →
        (Value.text text).real name = .error (.number name (.text text))) := by
  have read (q : Rat) : ofText? text = some q ↔ StandsFor text q :=
    ofText?_eq_some_iff.trans standsFor_iff.symm
  constructor
  · intro q
    rw [← read]
    cases h : ofText? text <;> simp [Value.real, Value.toRat, h, Except.mapError]
  · intro refused
    have unread : ofText? text = none :=
      Option.eq_none_iff_forall_ne_some.2 fun q eq => refused q ((read q).1 eq)
    rw [Value.real, Value.toRat, unread]
    rfl

end LineMeasure.Rational
