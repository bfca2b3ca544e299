import LineMeasure.Text.CodePoint

/-!
# Tokens of regular expressions

A text is cut into plain characters and characters behind a backslash. Half of a surrogate pair
stands for itself, behind a backslash too. A backslash at the end of a text has nothing behind it;
reading never goes past it.
-/

namespace LineMeasure.Pattern

/-- A plain character, a character behind a backslash, half of a surrogate pair, or a backslash at
the end. -/
inductive Token where
  | plain (c : Char)
  | escaped (c : Char)
  | half (n : Fin 0x800)
  | cutOff
  deriving DecidableEq

namespace Token

/-- The tokens of a text. -/
def ofCodePoints : List Text.CodePoint → List Token
  | [] => []
  | [.char '\\'] => [cutOff]
  | .char '\\' :: .char c :: rest => escaped c :: ofCodePoints rest
  | .char '\\' :: .half n :: rest => half n :: ofCodePoints rest
  | .char c :: rest => plain c :: ofCodePoints rest
  | .half n :: rest => half n :: ofCodePoints rest

/-- The plain characters of a kind at the beginning, at most `count`, and the other tokens. -/
def takePlain (p : Char → Bool) : Nat → List Token → List Char × List Token
  | count + 1, plain c :: rest =>
    if p c then
      let (cs, rest) := takePlain p count rest
      (c :: cs, rest)
    else ([], plain c :: rest)
  | _, rest => ([], rest)

/-- The tokens before the first plain character `stop`, and those behind it. -/
def readUntil? (stop : Char) : List Token → Option (List Token × List Token)
  | [] => none
  | t :: rest =>
    if t = plain stop then some ([], rest)
    else do
      let (before, rest) ← readUntil? stop rest
      return (t :: before, rest)

/-- What follows the first plain character `stop`; the end, when there is none. -/
def skipThrough (stop : Char) : List Token → List Token
  | [] => []
  | t :: rest =>
    if t = plain stop then rest
    else if t = cutOff then t :: rest
    else skipThrough stop rest

/-- The characters of a list of tokens that are all plain. -/
def plainText? (tokens : List Token) : Option (List Char) :=
  tokens.mapM fun t => match t with
    | plain c => some c
    | _ => none

end Token
end LineMeasure.Pattern
