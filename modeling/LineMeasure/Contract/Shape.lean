import LineMeasure.Json.Basic
import LineMeasure.Rational.Literal
import LineMeasure.Text.Line
import LineMeasure.Text.Order

/-!
# Shapes of documents

A shape describes the documents of one kind: truth values, texts of a given form, counts, lists of a
shape, records with given fields, and null or a shape. `violations` lists everything that is wrong
with a document: where it is, and what the rule is. A document has the shape when the list is empty.
-/

namespace LineMeasure

/-- The forms of text that stand for numbers. -/
inductive TextForm where
  | rational
  | nonnegative
  | extended
  deriving DecidableEq

namespace TextForm

/-- The regular expression of the form. -/
def expression : TextForm → String
  | rational => "^-?[0-9]+(/[0-9]+)?$"
  | nonnegative => "^[0-9]+(/[0-9]+)?$"
  | extended => "^(inf|[0-9]+(/[0-9]+)?)$"

/-- One digit or more. -/
def isNumeral (cs : List Char) : Bool :=
  !cs.isEmpty && cs.all Char.isDigit

/-- A numeral, or two of them with a slash between. -/
def isQuotient (cs : List Char) : Bool :=
  match Rational.cutAt (· == '/') cs with
  | (numerator, none) => isNumeral numerator
  | (numerator, some denominator) => isNumeral numerator && isNumeral denominator

/-- Whether a whole line has the form. -/
def acceptsLine : TextForm → List Char → Bool
  | rational, '-' :: cs => isQuotient cs
  | rational, cs => isQuotient cs
  | nonnegative, cs => isQuotient cs
  | extended, cs => cs == ['i', 'n', 'f'] || isQuotient cs

/-- Whether a text has the form; one line feed may follow. -/
def accepts (form : TextForm) (s : String) : Bool :=
  Text.fitsLine form.acceptsLine s

end TextForm

/-- A kind of documents. -/
inductive Shape where
  | truth
  | text (form : Option TextForm)
  | count
  | list (items : Shape)
  | optional (shape : Shape)
  | record (fields : List (String × Shape)) (closed : Bool)

/-- A rule that a part of a document breaks. -/
inductive Breach where
  | missing (name : String)
  | unexpected (names : List String)
  | kind (found : Json) (expected : String)
  | malformed (found : String) (form : TextForm)
  | negative (found : Json)
  | noAlternative (found : Json)

/-- A broken rule and the place where it is broken. -/
structure Violation where
  path : List Step
  breach : Breach

namespace Breach

/-- The name of the rule. -/
def keyword : Breach → String
  | missing _ => "required"
  | unexpected _ => "additionalProperties"
  | kind _ _ => "type"
  | malformed _ _ => "pattern"
  | negative _ => "minimum"
  | noAlternative _ => "anyOf"

/-- What is wrong, in words. -/
def message : Breach → String
  | missing name => Text.quoted name ++ " is a required property"
  | unexpected names =>
    "Additional properties are not allowed (" ++ ", ".intercalate (names.map Text.quoted)
      ++ (if names.length = 1 then " was" else " were") ++ " unexpected)"
  | kind found expected => found.display ++ " is not of type " ++ Text.quoted expected
  | malformed found form => Text.quoted found ++ " does not match " ++ Text.quoted form.expression
  | negative found => found.display ++ " is less than the minimum of 0"
  | noAlternative found => found.display ++ " is not valid under any of the given schemas"

end Breach

namespace Violation

/-- The place of a violation, from the root `$` of the document. -/
def place (v : Violation) : String :=
  v.path.foldl (fun s step => match step with
    | .key name => s ++ "." ++ name
    | .index i => s ++ "[" ++ toString i ++ "]") "$"

/-- The same violation, seen from a document that has the broken one as its part. -/
def under (step : Step) (v : Violation) : Violation :=
  ⟨step :: v.path, v.breach⟩

end Violation

namespace Json

/-- Whether a document is an integer; a floating point number with an integral value is one. -/
def isIntegral : Json → Bool
  | int _ => true
  | float x => x.value?.any fun q => q.den == 1
  | _ => false

/-- Whether a document is a negative number. -/
def isNegative : Json → Bool
  | int n => n < 0
  | float (.finite q) => q < 0
  | float (.infinity negative) => negative
  | _ => false

end Json

namespace Shape

mutual

/-- Everything that is wrong with a document of the shape. -/
def violations : Shape → Json → List Violation
  | truth, .bool _ => []
  | truth, found => [⟨[], .kind found "boolean"⟩]
  | text form, .text s =>
    (form.filter fun form => !form.accepts s).toList.map fun form => ⟨[], .malformed s form⟩
  | text _, found => [⟨[], .kind found "string"⟩]
  | count, found =>
    (if found.isIntegral then [] else [⟨[], .kind found "integer"⟩])
      ++ (if found.isNegative then [⟨[], .negative found⟩] else [])
  | list items, .array found =>
    (found.mapIdx fun i item => (items.violations item).map (·.under (.index i))).flatten
  | list _, found => [⟨[], .kind found "array"⟩]
  | optional _, .null => []
  | optional shape, found =>
    if (shape.violations found).isEmpty then [] else [⟨[], .noAlternative found⟩]
  | record fields closed, .object found =>
    let missing := (fields.map (·.1)).filter fun name => !Json.hasField name found
    let extra := (found.map (·.1)).filter fun name => !fields.any (·.1 == name)
    missing.map (fun name => ⟨[], .missing name⟩)
      ++ (if closed && !extra.isEmpty then
            [⟨[], .unexpected (Text.sorted extra)⟩]
          else [])
      ++ fieldViolations fields found
  | record _ _, found => [⟨[], .kind found "object"⟩]

/-- Everything that is wrong with the fields that are there. -/
def fieldViolations : List (String × Shape) → List (String × Json) → List Violation
  | [], _ => []
  | (name, shape) :: rest, found =>
    (match Json.field? name found with
      | none => []
      | some value => (shape.violations value).map (·.under (.key name)))
      ++ fieldViolations rest found

end

/-- Whether a document has the shape. -/
def accepts (shape : Shape) (found : Json) : Bool :=
  (shape.violations found).isEmpty

end Shape
end LineMeasure
