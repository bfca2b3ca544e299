import LineMeasure.Json.Basic
import LineMeasure.Rational.Literal

/-!
# Reading documents

The reader takes the text of a document apart, character by character. A number without point and
exponent is an integer; any other number is rounded to the 64-bit binary format, the special values
of which are written as words. Of two fields with one name the later value counts, at the place of
the earlier one. The depth of the recursion is bounded by the length of the text, because every step
reads at least one character.
-/

namespace LineMeasure.Json

/-- The text without the blanks at its beginning. -/
def skipBlanks (cs : List Char) : List Char :=
  cs.dropWhile fun c => c == ' ' || c == '\t' || c == '\n' || c == '\r'

/-- The code point that follows a backslash, and the rest of the text. -/
def escapeCode? : List Char → Option (Nat × List Char)
  | 'u' :: a :: b :: c :: d :: rest => do
    let high := 16 * (← Text.hexValue? a) + (← Text.hexValue? b)
    let low := 16 * (← Text.hexValue? c) + (← Text.hexValue? d)
    return (256 * high + low, rest)
  | 'n' :: rest => some ('\n'.toNat, rest)
  | 't' :: rest => some ('\t'.toNat, rest)
  | 'r' :: rest => some ('\r'.toNat, rest)
  | 'b' :: rest => some (8, rest)
  | 'f' :: rest => some (12, rest)
  | c :: rest => if c == '\"' || c == '\\' || c == '/' then some (c.toNat, rest) else none
  | [] => none

/-- The codes of a text up to its closing quote, and what follows the quote. -/
def textCodes? : Nat → List Char → Option (List Nat × List Char)
  | 0, _ => none
  | _, [] => none
  | _, '\"' :: rest => some ([], rest)
  | fuel + 1, '\\' :: rest => do
    let (code, rest) ← escapeCode? rest
    let (codes, rest) ← textCodes? fuel rest
    return (code :: codes, rest)
  | fuel + 1, c :: rest => do
    let (codes, rest) ← textCodes? fuel rest
    return (c.toNat :: codes, rest)

/-- Code points from codes; a pair of surrogates stands for one character beyond the basic plane,
and half of a pair may stand alone. -/
def joinSurrogates : List Nat → List Text.CodePoint
  | high :: low :: rest =>
    if 0xD800 ≤ high ∧ high < 0xDC00 ∧ 0xDC00 ≤ low ∧ low < 0xE000 then
      .ofNat (0x10000 + (high - 0xD800) * 0x400 + (low - 0xDC00)) :: joinSurrogates rest
    else .ofNat high :: joinSurrogates (low :: rest)
  | [code] => [.ofNat code]
  | [] => []

/-- A text after its opening quote. -/
def readText? (cs : List Char) : Option (String × List Char) := do
  let (codes, rest) ← textCodes? (cs.length + 1) cs
  return (String.ofList (Text.hold (joinSurrogates codes)), rest)

/-- A number from its characters. -/
def readNumber? (cs : List Char) : Option Json := do
  let l ← Rational.literal? cs
  let q ← l.value?
  if cs.any fun c => c == '.' || c == 'e' || c == 'E' then
    if q = 0 ∧ l.negative then return .float .negativeZero
    else return .float ((Binary64.round? q).getD (.infinity l.negative))
  else return .int q.num

/-- The fields with one more; a name that is there already gets the new value. -/
def setField (name : String) (value : Json) : List (String × Json) → List (String × Json)
  | [] => [(name, value)]
  | (other, old) :: rest =>
    if other = name then (name, value) :: rest else (other, old) :: setField name value rest

mutual

/-- A document at the beginning of a text, and the rest of the text. -/
def readValue? : Nat → List Char → Option (Json × List Char)
  | 0, _ => none
  | fuel + 1, cs =>
    match skipBlanks cs with
    | 'n' :: 'u' :: 'l' :: 'l' :: rest => some (.null, rest)
    | 't' :: 'r' :: 'u' :: 'e' :: rest => some (.bool true, rest)
    | 'f' :: 'a' :: 'l' :: 's' :: 'e' :: rest => some (.bool false, rest)
    | 'N' :: 'a' :: 'N' :: rest => some (.float .nan, rest)
    | 'I' :: 'n' :: 'f' :: 'i' :: 'n' :: 'i' :: 't' :: 'y' :: rest =>
      some (.float (.infinity false), rest)
    | '-' :: 'I' :: 'n' :: 'f' :: 'i' :: 'n' :: 'i' :: 't' :: 'y' :: rest =>
      some (.float (.infinity true), rest)
    | '\"' :: rest => do
      let (s, rest) ← readText? rest
      return (.text s, rest)
    | '[' :: rest =>
      match skipBlanks rest with
      | ']' :: rest => some (.array [], rest)
      | rest => do
        let (items, rest) ← readItems? fuel rest
        return (.array items, rest)
    | '{' :: rest =>
      match skipBlanks rest with
      | '}' :: rest => some (.object [], rest)
      | rest => do
        let (fields, rest) ← readFields? fuel [] rest
        return (.object fields, rest)
    | cs => do
      let isPart :=
        fun c : Char => c.isDigit || c == '-' || c == '+' || c == '.' || c == 'e' || c == 'E'
      return (← readNumber? (cs.takeWhile isPart), cs.dropWhile isPart)

/-- The items of an array up to its closing bracket, at least one. -/
def readItems? : Nat → List Char → Option (List Json × List Char)
  | 0, _ => none
  | fuel + 1, cs => do
    let (item, rest) ← readValue? fuel cs
    match skipBlanks rest with
    | ']' :: rest => return ([item], rest)
    | ',' :: rest =>
      let (items, rest) ← readItems? fuel rest
      return (item :: items, rest)
    | _ => none

/-- The fields of an object up to its closing brace, at least one, after those read before. -/
def readFields? : Nat → List (String × Json) → List Char → Option (List (String × Json) × List Char)
  | 0, _, _ => none
  | fuel + 1, before, cs =>
    match skipBlanks cs with
    | '\"' :: rest => do
      let (name, rest) ← readText? rest
      match skipBlanks rest with
      | ':' :: rest =>
        let (value, rest) ← readValue? fuel rest
        let fields := setField name value before
        match skipBlanks rest with
        | '}' :: rest => return (fields, rest)
        | ',' :: rest => readFields? fuel fields rest
        | _ => none
      | _ => none
    | _ => none

end

/-- The document that a text holds, with nothing but blanks around it. -/
def read? (s : String) : Option Json := do
  let cs := s.toList
  let (value, rest) ← readValue? (cs.length + 1) cs
  match skipBlanks rest with
  | [] => return value
  | _ => none

end LineMeasure.Json
