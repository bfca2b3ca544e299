import LineMeasure.Text.Split

/-!
# Writing down the names of characters

Characters with consecutive code points often have names that share their first or last words. A run
keeps such names together, and of every name only what differs from the name before it. Names
consist of capital letters, digits, hyphens and parentheses; small letters are left for counting the
shared words.

A line holds one name or more without a gap between them. Each name begins with a letter from `a` to
`m` for the number of words, from none to twelve, that it shares with the beginning of the name
before it; it ends with a letter from `n` to `z` when it shares one word or more, up to thirteen,
with the end of that name. Between the two letters stand the other words.
-/

namespace LineMeasure.Text.CharacterName

/-- Characters with consecutive code points, from `first` on, and the lines of their names. -/
structure NameRun where
  first : Nat
  lines : List String

/-- The words of a text with a single space between any two of them. -/
def words (cs : List Char) : List (List Char) :=
  fields ' ' cs

/-- Whether a letter begins a name of a run. -/
def isOpening (c : Char) : Bool :=
  'a' ≤ c && c ≤ 'm'

/-- Whether a letter ends a name of a run. -/
def isClosing (c : Char) : Bool :=
  'n' ≤ c && c ≤ 'z'

/-- The words of a name: some from the beginning of the name before it, its own ones, and some from
the end of the name before it. -/
def joined (previous : List (List Char)) (opening : Char) (own : List Char) (last : Nat) :
    List (List Char) :=
  previous.take (opening.toNat - 'a'.toNat)
    ++ (if own.isEmpty then [] else words own)
    ++ previous.drop (previous.length - last)

/-- The words of a name as it is written in a run, behind the words of another one. -/
def next (previous : List (List Char)) : List Char → List (List Char)
  | [] => previous
  | opening :: rest =>
    match rest.getLast? with
    | some closing =>
      if isClosing closing then
        joined previous opening rest.dropLast (closing.toNat - 'm'.toNat)
      else joined previous opening rest 0
    | none => joined previous opening [] 0

/-- The code point of the character with a name, among written names of which the first belongs to
the code point `code`. -/
def search (name : List (List Char)) (code : Nat) (previous : List (List Char)) :
    List (List Char) → Option Nat
  | [] => none
  | written :: rest =>
    let current := next previous written
    if current = name then some code else search name (code + 1) current rest

namespace NameRun

/-- The names of a run as they are written. -/
def written (run : NameRun) : List (List Char) :=
  run.lines.flatMap fun line => line.toList.splitBy fun _ c => !isOpening c

/-- The code point of the character of a run with a name. -/
def codeOf? (run : NameRun) (name : List (List Char)) : Option Nat :=
  search name run.first [] run.written

end NameRun

/-- A name may share its first word and its last one with the name before it. -/
example :
    let run : NameRun := ⟨0x28, ["aLEFT PARENTHESISaRIGHTnaASTERISK", "aPLUS SIGN"]⟩
    run.codeOf? (words "RIGHT PARENTHESIS".toList) = some 0x29 ∧
      run.codeOf? (words "PLUS SIGN".toList) = some 0x2B ∧
      run.codeOf? (words "PLUS".toList) = none := by
  decide +kernel

end LineMeasure.Text.CharacterName
