import LineMeasure.Text.CodePoint
import LineMeasure.Text.Hexadecimal
import LineMeasure.Text.Printable

/-!
# Quoted texts

How a text is shown inside a message: between single quotes, or between double quotes when it holds
a single quote and no double quote. Backslashes and the quote in use are escaped, printable
characters stand as they are, and the other code points are written by their number in hexadecimal.
-/

namespace LineMeasure.Text

/-- A code point that is written by its number. -/
def escapeNumber (n : Nat) : String :=
  if n < 0x100 then "\\x" ++ hexadecimal 2 n
  else if n < 0x10000 then "\\u" ++ hexadecimal 4 n
  else "\\U" ++ hexadecimal 8 n

/-- One code point of a quoted text. -/
def escape (quote : Char) : CodePoint → String
  | .half n => escapeNumber (CodePoint.half n).value
  | .char c =>
    if c == quote || c == '\\' then String.ofList ['\\', c]
    else if c == '\t' then "\\t"
    else if c == '\n' then "\\n"
    else if c == '\r' then "\\r"
    else if isPrintable c then String.singleton c
    else escapeNumber c.toNat

/-- The quote that surrounds a text. -/
def quoteFor (s : String) : Char :=
  if s.contains '\'' && !s.contains '\"' then '\"' else '\''

/-- The text between quotes. -/
def quoted (s : String) : String :=
  let quote := String.singleton (quoteFor s)
  quote ++ String.join ((codePoints s.toList).map (escape (quoteFor s))) ++ quote

/-- The texts between quotes, as a list in brackets. -/
def quotedList (ss : List String) : String :=
  "[" ++ ", ".intercalate (ss.map quoted) ++ "]"

end LineMeasure.Text
