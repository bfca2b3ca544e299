import LineMeasure.Value.Operand

/-!
# Hashing of numbers

Numbers that are equal are hashed alike, of whatever kind they are. The hash of a rational number is
its residue modulo the prime `2 ^ 61 - 1`, with the sign of the number; where the denominator has no
inverse, it is that of infinity. Unequal numbers may have the same hash.
-/

namespace LineMeasure.Hash

/-- The modulus of the residues. -/
def modulus : Nat :=
  2305843009213693951

/-- The hash of infinity. -/
def infinity : Nat :=
  314159

/-- The residue of a power. -/
def powerResidue (base exponent : Nat) : Nat :=
  if exponent = 0 then 1
  else
    let root := powerResidue (base * base % modulus) (exponent / 2)
    if exponent % 2 = 0 then root else base * root % modulus
termination_by exponent

/-- The residue of a quotient, the denominator of which is not zero modulo the prime. -/
def quotientResidue (numerator denominator : Nat) : Nat :=
  numerator % modulus * powerResidue (denominator % modulus) (modulus - 2) % modulus

/-- A residue with a sign; minus one is not used. -/
def signed (negative : Bool) (residue : Nat) : Int :=
  let hash : Int := if negative then -residue else residue
  if hash = -1 then -2 else hash

/-- The hash of a rational number. -/
def ofRat (q : Rat) : Int :=
  signed (q.num < 0)
    (if q.den % modulus = 0 then infinity else quotientResidue q.num.natAbs q.den)

/-- The hash of a number; not-a-number shares its hash with nothing. -/
def ofNumber? : Number → Option Int
  | .exact q => some (ofRat q)
  | .infinity negative => some (signed negative infinity)
  | .nan => none

end LineMeasure.Hash

namespace LineMeasure.Value

/-- The hash of a value, where it may be shared with a number. Truth values count as numbers, and
the empty text has the hash of zero. -/
def hash? : Value → Option Int
  | bool b => some (if b then 1 else 0)
  | decimal q => some (Hash.ofRat q)
  | specialDecimal (.infinity negative) => Hash.ofNumber? (.infinity negative)
  | extended .infinite => Hash.ofNumber? (.infinity false)
  | extended (.finite q _) => some (Hash.ofRat q)
  | text s => if s = "" then some 0 else none
  | v =>
    match v.operand? with
    | some (.number x) => Hash.ofNumber? x
    | _ => none

/-- Whether a value has a hash; lists, dictionaries and signaling decimals have none. -/
def isHashed : Value → Bool
  | list | dict | specialDecimal (.nan true _) => false
  | _ => true

/-- Whether two values, one of which is an extended number, are hashed alike. -/
def sameHash (a b : Value) : Except Error Bool :=
  if !a.isHashed || !b.isHashed then .error .operand
  else
    match a.hash?, b.hash? with
    | some x, some y => .ok (x == y)
    | _, _ => .ok false

/-- Only an extended number is an operand of its kind. -/
theorem extended_of_operand {v : Value} {e : ENNRat} (operand : v.operand? = some (.extended e)) :
    v = extended e := by
  cases v with
  | extended f =>
    cases operand
    rfl
  | _ => cases operand

/-- Beside an extended number an operand is hashed as the number that is given. -/
theorem hash?_of_operand {v : Value} {x : Number} (operand : v.operand? = some (.number x)) :
    v.isHashed = true ∧ v.hash? = Hash.ofNumber? x := by
  cases v with
  | int n | rational q | float y =>
    cases operand
    exact ⟨rfl, rfl⟩
  | _ => cases operand

/-- An extended number that equals a plain one is hashed like it. -/
theorem hash?_of_equalsNumber {e : ENNRat} {x : Number} (equal : e.equalsNumber x = true) :
    ∃ n, (extended e).hash? = some n ∧ Hash.ofNumber? x = some n := by
  cases x with
  | exact q =>
    cases e with
    | finite value _ =>
      obtain rfl : value = q := by simpa [ENNRat.equalsNumber, ENNRat.toRat?] using equal
      exact ⟨_, rfl, rfl⟩
    | infinite => cases equal
  | infinity negative =>
    cases e with
    | finite value _ => simp [ENNRat.equalsNumber, ENNRat.isInfinite] at equal
    | infinite =>
      obtain rfl : negative = false := by simpa [ENNRat.equalsNumber, ENNRat.isInfinite] using equal
      exact ⟨_, rfl, rfl⟩
  | nan => cases equal

theorem sameHash_of_hash? {a b : Value} {n : Int} (ha : a.isHashed = true) (hb : b.isHashed = true)
    (first : a.hash? = some n) (second : b.hash? = some n) : a.sameHash b = .ok true := by
  simp [sameHash, ha, hb, first, second]

/-- Equal values are hashed alike. -/
theorem sameHash_of_equals {a b : Value} (equal : a.equals b = true) :
    a.sameHash b = .ok true := by
  unfold equals at equal
  split at equal
  next e f ha hb =>
    obtain rfl : e = f := of_decide_eq_true equal
    obtain rfl := extended_of_operand ha
    obtain rfl := extended_of_operand hb
    obtain ⟨n, hn⟩ : ∃ n, (extended e).hash? = some n := by cases e <;> exact ⟨_, rfl⟩
    exact sameHash_of_hash? rfl rfl hn hn
  next e x ha hb =>
    obtain rfl := extended_of_operand ha
    obtain ⟨n, first, second⟩ := hash?_of_equalsNumber equal
    obtain ⟨hashed, hash⟩ := hash?_of_operand hb
    exact sameHash_of_hash? rfl hashed first (hash.trans second)
  next x e ha hb =>
    obtain rfl := extended_of_operand hb
    obtain ⟨n, first, second⟩ := hash?_of_equalsNumber equal
    obtain ⟨hashed, hash⟩ := hash?_of_operand ha
    exact sameHash_of_hash? hashed rfl (hash.trans second) first
  next => cases equal

end LineMeasure.Value
