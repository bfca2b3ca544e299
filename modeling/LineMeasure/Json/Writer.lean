import LineMeasure.Json.Basic

/-!
# The text of a document

Documents are written without blanks. Inside texts the quote, the backslash and the control
characters are escaped, and so are halves of surrogate pairs; every other character stands as it is.
-/

namespace LineMeasure.Json

/-- One code point of a written text. -/
def writeCodePoint : Text.CodePoint → String
  | .half n => "\\u" ++ Text.hexadecimal 4 (Text.CodePoint.half n).value
  | .char c =>
    if c == '\"' then "\\\""
    else if c == '\\' then "\\\\"
    else if c.toNat < 0x20 then "\\u" ++ Text.hexadecimal 4 c.toNat
    else String.singleton c

/-- A text between quotes. -/
def writeText (s : String) : String :=
  "\"" ++ String.join ((Text.codePoints s.toList).map writeCodePoint) ++ "\""

mutual

/-- The text of a document. -/
def write : Json → String
  | null => "null"
  | bool true => "true"
  | bool false => "false"
  | int n => toString n
  | float x => x.text
  | text s => writeText s
  | array items => "[" ++ writeItems items ++ "]"
  | object fields => "\x7b" ++ writeFields fields ++ "\x7d"

/-- The items of an array, separated by commas. -/
def writeItems : List Json → String
  | [] => ""
  | [item] => item.write
  | item :: rest => item.write ++ "," ++ writeItems rest

/-- The fields of an object, separated by commas. -/
def writeFields : List (String × Json) → String
  | [] => ""
  | [(name, value)] => writeText name ++ ":" ++ value.write
  | (name, value) :: rest => writeText name ++ ":" ++ value.write ++ "," ++ writeFields rest

end

end LineMeasure.Json
