import LineMeasure.Pattern.Basic
import LineMeasure.Pattern.Character

/-!
# Repetitions in regular expressions

A sign or numbers in braces behind an item tell how often it is repeated. Numbers have to stay below
the limit of `2 ^ 32 - 1` and to be in order; positions and repetitions are not repeated.
-/

namespace LineMeasure.Pattern

/-- The numbers of repetitions in braces; other braces are plain characters. -/
def readBraces? (tokens : List Token) : Option ((Nat × Option Nat) × List Token) :=
  let bound := fun digits : List Char => if digits.isEmpty then none else some (numeral 10 digits)
  let (low, rest) := Token.takePlain Char.isDigit tokens.length tokens
  let (high, rest) := match rest with
    | .plain ',' :: rest => Token.takePlain Char.isDigit rest.length rest
    | rest => (low, rest)
  match tokens, rest with
  | .plain '}' :: _, _ => none
  | _, .plain '}' :: rest => some ((numeral 10 low, bound high), rest)
  | _, _ => none

/-- The numbers of repetitions behind an item, when there are any. -/
def readBounds? : List Token → Option ((Nat × Option Nat) × List Token)
  | .plain '?' :: rest => some ((0, some 1), rest)
  | .plain '*' :: rest => some ((0, none), rest)
  | .plain '+' :: rest => some ((1, none), rest)
  | .plain '{' :: rest => readBraces? rest
  | _ => none

/-- Checks numbers of repetitions. -/
def checkBounds (least : Nat) (most : Option Nat) : Except PatternFault Unit :=
  if 4294967295 ≤ least || most.any (4294967295 ≤ ·) then .error .numberTooLarge
  else if most.any (· < least) then .error .malformed
  else .ok ()

/-- Takes away the sign for reluctant or for possessive repetition. -/
def skipMode : List Token → List Token
  | .plain '?' :: rest => rest
  | .plain '+' :: rest => rest
  | rest => rest

/-- The items read before, the last one first, with that one repeated, and what follows the
repetition. The numbers are checked before the item; a backslash at the end of the text is noticed
before both. -/
def repeatLast (bounds : Nat × Option Nat) (before : List Pattern) (rest : List Token) :
    Except PatternFault (List Pattern × List Token) := do
  if rest.head? = some .cutOff then throw .malformed
  checkBounds bounds.1 bounds.2
  match before with
  | [] | .position :: _ | .repetition _ _ _ :: _ => throw .malformed
  | item :: before => return (.repetition bounds.1 bounds.2 item :: before, skipMode rest)

end LineMeasure.Pattern
