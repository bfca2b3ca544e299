import LineMeasure.Text.CharacterName.Aliases
import LineMeasure.Text.CharacterName.Alphabets
import LineMeasure.Text.CharacterName.Pictographs
import LineMeasure.Text.CharacterName.Scripts
import LineMeasure.Text.CharacterName.Syllables
import LineMeasure.Text.CharacterName.Symbols
import LineMeasure.Text.CodePoint
import LineMeasure.Text.Hexadecimal

/-!
# Characters by their names

The character of a name of Unicode 14. Most characters have a name of their own. Ideographs and the
characters of a few scripts are named by their code point behind a common beginning, and the Korean
syllables by the letters they consist of. Small and capital letters are the same, except for the
unified ideographs and the syllables. The names of sequences of characters are no names of
characters.

Regular expressions name characters in this way, also as the ends of ranges (`Pattern.Character`).
So it takes all names to say which texts are regular expressions, and which documents with patterns
are schemas.
-/

namespace LineMeasure.Text.CharacterName

/-- All runs of characters with names of their own. -/
def runs : List NameRun :=
  alphabets ++ symbols ++ syllables ++ scripts ++ pictographs ++ aliases

/-- What follows a beginning of a text. -/
def behind? : List Char → List Char → Option (List Char)
  | [], rest => some rest
  | c :: beginning, d :: rest => if c = d then behind? beginning rest else none
  | _ :: _, [] => none

/-- The number that is written by hexadecimal digits, four or five of them, with capital letters. -/
def codeNumber? (digits : List Char) : Option Nat :=
  if (digits.length = 4 ∨ digits.length = 5) ∧ digits.all (fun c => !('a' ≤ c && c ≤ 'f')) then
    digits.foldlM (fun n c => (hexValue? c).map (16 * n + ·)) 0
  else none

/-- The code points of the unified ideographs. -/
def unifiedIdeographs : List (Nat × Nat) :=
  [(0x3400, 0x4DBF), (0x4E00, 0x9FFF), (0x20000, 0x2A6DF), (0x2A700, 0x2B738), (0x2B740, 0x2B81D),
    (0x2B820, 0x2CEA1), (0x2CEB0, 0x2EBE0), (0x30000, 0x3134A)]

/-- Other characters that are named by their code point, with the beginning of their names. -/
def numbered : List (String × List (Nat × Nat)) :=
  [("CJK COMPATIBILITY IDEOGRAPH-", [(0xF900, 0xFA6D), (0xFA70, 0xFAD9), (0x2F800, 0x2FA1D)]),
    ("KHITAN SMALL SCRIPT CHARACTER-", [(0x18B00, 0x18CD5)]),
    ("NUSHU CHARACTER-", [(0x1B170, 0x1B2FB)])]

/-- The code point in the name of a character, with a zero in front for unified ideographs only. -/
def numberedCode? (name upper : List Char) : Option Nat :=
  match behind? "CJK UNIFIED IDEOGRAPH-".toList name with
  | some digits => (codeNumber? digits).filter (isInRanges unifiedIdeographs)
  | none =>
    numbered.findSome? fun family => do
      let digits ← behind? family.1.toList upper
      let code ← codeNumber? digits
      if isInRanges family.2 code && digits.head? != some '0' then some code else none

/-- The letters that a syllable may begin with. -/
def leadingLetters : List String :=
  ["G", "GG", "N", "D", "DD", "R", "M", "B", "BB", "S", "SS", "", "J", "JJ", "C", "K", "T", "P",
    "H"]

/-- The vowels of syllables. -/
def vowels : List String :=
  ["A", "AE", "YA", "YAE", "EO", "E", "YEO", "YE", "O", "WA", "WAE", "OE", "YO", "U", "WEO", "WE",
    "WI", "YU", "EU", "YI", "I"]

/-- The letters that a syllable may end with. -/
def trailingLetters : List String :=
  ["", "G", "GG", "GS", "N", "NJ", "NH", "D", "L", "LG", "LM", "LB", "LS", "LT", "LP", "LH", "M",
    "B", "BS", "S", "SS", "NG", "J", "C", "K", "T", "P", "H"]

/-- The longest of some texts that a text begins with: its index, and what follows it. -/
def longest? (options : List String) (cs : List Char) : Option (Nat × List Char) :=
  (options.zipIdx.filterMap fun option => (behind? option.1.toList cs).map (option.2, ·)).foldl
    (fun best found =>
      match best with
      | some (_, rest) => if found.2.length < rest.length then some found else best
      | none => some found)
    none

/-- The code point of a syllable that is written by its letters. -/
def syllable? (letters : List Char) : Option Nat := do
  let (leading, rest) ← longest? leadingLetters letters
  let (vowel, rest) ← longest? vowels rest
  let (trailing, rest) ← longest? trailingLetters rest
  if rest.isEmpty then return 0xAC00 + (leading * 21 + vowel) * 28 + trailing else none

/-- The code point of the character with a name. -/
def codeOf? (name : List Char) : Option Nat :=
  let upper := name.map Char.toUpper
  match behind? "HANGUL SYLLABLE ".toList name with
  | some letters => syllable? letters
  | none =>
    match numberedCode? name upper with
    | some code => some code
    | none => runs.findSome? fun run => run.codeOf? (words upper)

/-- A syllable is taken apart into its letters, the longest ones first. -/
example : syllable? "GGAEGG".toList = some 0xAE6A ∧ syllable? "I".toList = some 0xC774 := by
  decide +kernel

end LineMeasure.Text.CharacterName
