import LineMeasure.Pattern.Basic
import LineMeasure.Pattern.Token
import LineMeasure.Text.CharacterName.Lookup

/-!
# Characters in regular expressions

A character behind a backslash is a position, a kind of characters, a reference to a group, or a
single character that is given by its code, by its name or by itself. A class lists characters,
kinds of characters and ranges in brackets.
-/

namespace LineMeasure.Pattern

/-- What a character behind a backslash stands for. -/
inductive Escape where
  | position
  | character
  | group (n : Nat)
  deriving DecidableEq

/-- A digit of the octal system. -/
def isOctal (c : Char) : Bool :=
  '0' ≤ c && c ≤ '7'

/-- The value of digits. -/
def numeral (base : Nat) (digits : List Char) : Nat :=
  digits.foldl (fun n c => base * n + (Text.hexValue? c).getD 0) 0

/-- A code point of so many hexadecimal digits. A number that does not fit into 31 bits is a fault
of its own, but a backslash at the end of the text is noticed before the number is looked at. -/
def readHexadecimal (count : Nat) (tokens : List Token) : Except PatternFault (Nat × List Token) :=
  let (digits, rest) := Token.takePlain (fun c => (Text.hexValue? c).isSome) count tokens
  let code := numeral 16 digits
  if digits.length ≠ count || rest.head? = some .cutOff then .error .malformed
  else if 0x7FFFFFFF < code then .error .numberTooLarge
  else if 0x10FFFF < code then .error .malformed
  else .ok (code, rest)

/-- A code point that is given by the name of the character in braces. -/
def readNamed? : List Token → Option (Nat × List Token)
  | .plain '{' :: rest => do
    let (name, rest) ← Token.readUntil? '}' rest
    return (← Text.CharacterName.codeOf? (← Token.plainText? name), rest)
  | _ => none

/-- A code point behind `\x`, `\u`, `\U` or `\N`. -/
def readCode (c : Char) (rest : List Token) : Except PatternFault (Nat × List Token) :=
  if c == 'x' then readHexadecimal 2 rest
  else if c == 'u' then readHexadecimal 4 rest
  else if c == 'U' then readHexadecimal 8 rest
  else require (readNamed? rest)

/-- Whether a code point follows a character behind a backslash. -/
def isCodeLetter (c : Char) : Bool :=
  "xuUN".toList.contains c

/-- A group number or a code of three octal digits. -/
def readNumbered? (first : Char) : List Token → Option (Escape × List Token)
  | .plain second :: rest =>
    let long := Escape.group (numeral 10 [first, second])
    if !second.isDigit then some (.group (numeral 10 [first]), .plain second :: rest)
    else
      match rest with
      | .plain third :: rest =>
        if isOctal first && isOctal second && isOctal third then
          if numeral 8 [first, second, third] ≤ 255 then some (.character, rest) else none
        else some (long, .plain third :: rest)
      | rest => some (long, rest)
  | rest => some (.group (numeral 10 [first]), rest)

/-- What a character behind a backslash stands for, outside of classes. -/
def readEscape (c : Char) (rest : List Token) : Except PatternFault (Escape × List Token) :=
  if ['A', 'Z', 'b', 'B'].contains c then .ok (.position, rest)
  else if "dDsSwWafnrtv".toList.contains c then .ok (.character, rest)
  else if isCodeLetter c then (readCode c rest).map fun r => (.character, r.2)
  else if c == '0' then .ok (.character, (Token.takePlain isOctal 2 rest).2)
  else if c.isDigit then require (readNumbered? c rest)
  else if c.isAlpha then .error .malformed
  else .ok (.character, rest)

/-- An octal code, the first digit of which has been read. -/
def readOctal? (first : Char) (tokens : List Token) : Option (Nat × List Token) :=
  let (digits, rest) := Token.takePlain isOctal 2 tokens
  let code := numeral 8 (first :: digits)
  if code ≤ 255 then some (code, rest) else none

/-- The code points of letters behind a backslash that stand for a control character. -/
def controls : List (Char × Nat) :=
  [('a', 7), ('b', 8), ('t', 9), ('n', 10), ('v', 11), ('f', 12), ('r', 13)]

/-- One item of a class, which is a single character with its code point or a kind of characters. -/
def readClassItem : Token → List Token → Except PatternFault (Option Nat × List Token)
  | .plain c, rest => .ok (some c.toNat, rest)
  | .half n, rest => .ok (some (Text.CodePoint.half n).value, rest)
  | .cutOff, _ => .error .malformed
  | .escaped c, rest =>
    match controls.lookup c with
    | some code => .ok (some code, rest)
    | none =>
      if "dDsSwW".toList.contains c then .ok (none, rest)
      else if isCodeLetter c then (readCode c rest).map fun r => (some r.1, r.2)
      else if isOctal c then require ((readOctal? c rest).map fun r => (some r.1, r.2))
      else if c.isAlphanum then .error .malformed
      else .ok (some c.toNat, rest)

/-- What follows a class up to its closing bracket, which does not close a class without items. The
ends of a range are single characters in order. -/
def readClass : Nat → Bool → List Token → Except PatternFault (List Token)
  | fuel + 1, started, t :: rest =>
    if started && t == .plain ']' then .ok rest
    else do
      let (low, rest) ← readClassItem t rest
      match rest with
      | .plain '-' :: .plain ']' :: rest => return rest
      | .plain '-' :: t :: rest =>
        let (high, rest) ← readClassItem t rest
        if (← require low) ≤ (← require high) then readClass fuel true rest
        else throw .malformed
      | rest => readClass fuel true rest
  | _, _, _ => .error .malformed

end LineMeasure.Pattern
