import LineMeasure.Contract.Shape
import LineMeasure.Pattern.Reader

/-!
# Schemas as documents

A schema is a truth value or an object whose fields are keywords, and every keyword has a rule for
its value: texts, numbers, lists, regular expressions, or schemas again. `schemaFaults` lists where
a document breaks these rules, which are those of the 2020-12 draft. Fields that are no keywords may
have any value.

The faults come in the order in which the rules are laid down, not in that of the fields, and the
first one tells why a document is no schema. A regular expression that asks for too much is a fault
of its own kind. A catalogue hands out documents without faults only (`Catalogue.load`).
-/

namespace LineMeasure

/-- Why a document is no schema: it breaks a rule, or a regular expression asks for too much. -/
inductive SchemaFault where
  | invalid
  | numberTooLarge
  | clashingFlags
  | farLook
  deriving DecidableEq

namespace SchemaFault

/-- The fault of a schema with a regular expression that is not accepted. -/
def ofPattern : PatternFault → SchemaFault
  | .malformed => invalid
  | .numberTooLarge => numberTooLarge
  | .clashingFlags => clashingFlags
  | .farLook => farLook

/-- The faults of a document that may keep either of two rules: one when neither is kept, or those
of the first rule when one of them is a regular expression that asks for too much. -/
def ofEither (first : List SchemaFault) (second : Bool) : List SchemaFault :=
  match first.find? (· != invalid) with
  | some fault => [fault]
  | none => if first.isEmpty || second then [] else [invalid]

end SchemaFault

/-- The rules for the values of keywords. -/
inductive KeywordRule where
  | anything
  | truth
  | text
  | identifier
  | anchor
  | expression
  | number
  | positiveNumber
  | count
  | list
  | texts
  | typeNames
  | truths
  | schema
  | schemas
  | schemasByName
  | schemasByExpression
  | textsByName
  | schemasOrTextsByName
  deriving DecidableEq

namespace KeywordRule

/-- The keywords with their rules, in the order in which the rules are applied. -/
def table : List (String × KeywordRule) :=
  [("$id", identifier), ("$schema", text), ("$ref", text), ("$anchor", anchor),
    ("$dynamicRef", text), ("$dynamicAnchor", anchor), ("$vocabulary", truths), ("$comment", text),
    ("$defs", schemasByName), ("prefixItems", schemas), ("items", schema), ("contains", schema),
    ("additionalProperties", schema), ("properties", schemasByName),
    ("patternProperties", schemasByExpression), ("dependentSchemas", schemasByName),
    ("propertyNames", schema), ("if", schema), ("then", schema), ("else", schema),
    ("allOf", schemas), ("anyOf", schemas), ("oneOf", schemas), ("not", schema),
    ("unevaluatedItems", schema), ("unevaluatedProperties", schema), ("type", typeNames),
    ("const", anything), ("enum", list), ("multipleOf", positiveNumber), ("maximum", number),
    ("exclusiveMaximum", number), ("minimum", number), ("exclusiveMinimum", number),
    ("maxLength", count), ("minLength", count), ("pattern", expression), ("maxItems", count),
    ("minItems", count), ("uniqueItems", truth), ("maxContains", count), ("minContains", count),
    ("maxProperties", count), ("minProperties", count), ("required", texts),
    ("dependentRequired", textsByName), ("title", text), ("description", text),
    ("default", anything), ("deprecated", truth), ("readOnly", truth), ("writeOnly", truth),
    ("examples", list), ("format", text), ("contentEncoding", text), ("contentMediaType", text),
    ("contentSchema", schema), ("definitions", schemasByName),
    ("dependencies", schemasOrTextsByName), ("$recursiveAnchor", anchor), ("$recursiveRef", text)]

/-- The place of a field in the order of the rules. -/
def rank (name : String) : Nat :=
  table.findIdx fun keyword => keyword.1 == name

/-- The rule for a field. -/
def ofName (name : String) : KeywordRule :=
  (table.lookup name).getD anything

/-- The names of types. -/
def types : List String :=
  ["array", "boolean", "integer", "null", "number", "object", "string"]

/-- A name that begins with a letter or an underscore. -/
def isAnchor (name : List Char) : Bool :=
  match name with
  | [] => false
  | c :: cs =>
    (c.isAlpha || c == '_')
      && cs.all fun c => c.isAlphanum || c == '_' || c == '-' || c == '.'

/-- An identifier may have the sign for fragments only as its last character. -/
def isIdentifier (cs : List Char) : Bool :=
  cs.dropLast.all (· != '#')

/-- The texts of a list of documents, when all of them are texts. -/
def textsOf? : List Json → Option (List String)
  | [] => some []
  | .text s :: rest => (textsOf? rest).map (s :: ·)
  | _ :: _ => none

/-- A list of texts, no two alike. -/
def isTexts : Json → Bool
  | .array items => (textsOf? items).any fun ss => decide ss.Nodup
  | _ => false

/-- The name of a type, or a list of such names, no two alike. -/
def isTypeNames : Json → Bool
  | .text s => types.contains s
  | .array items =>
    !items.isEmpty && (textsOf? items).any fun ss => decide ss.Nodup && ss.all types.contains
  | _ => false

/-- Whether a document is a number, and if this is asked for above zero; not-a-number is neither. -/
def isNumber (positive : Bool) : Json → Bool
  | .int n => !positive || 0 < n
  | .float x => !positive || x == .infinity false || x == .nan || x.value?.any (0 < ·)
  | _ => false

/-- Whether a value keeps a rule that speaks neither of schemas nor of regular expressions. -/
def accepts : KeywordRule → Json → Bool
  | truth, .bool _ => true
  | text, .text _ => true
  | identifier, .text s => Text.fitsLine isIdentifier s
  | anchor, .text s => Text.fitsLine isAnchor s
  | number, v => isNumber false v
  | positiveNumber, v => isNumber true v
  | count, v => v.isIntegral && !v.isNegative
  | list, .array _ => true
  | texts, v => isTexts v
  | typeNames, v => isTypeNames v
  | truths, .object fields => fields.all fun f => match f.2 with
    | .bool _ => true
    | _ => false
  | textsByName, .object fields => fields.all fun f => isTexts f.2
  | anything, _ => true
  | _, _ => false

/-- The faults of a text that has to be a regular expression. -/
def expressionFaults (s : String) : List SchemaFault :=
  match Pattern.ofText s with
  | .ok _ => []
  | .error fault => [.ofPattern fault]

/-- The faults of a value under a rule that does not speak of schemas. -/
def faults : KeywordRule → Json → List SchemaFault
  | expression, .text s => expressionFaults s
  | rule, v => if rule.accepts v then [] else [.invalid]

end KeywordRule

namespace Json

/-- Faults of the fields of an object, each with its place, in the order of the rules. -/
def inOrder (found : List (Nat × List SchemaFault)) : List SchemaFault :=
  (found.mergeSort fun a b => a.1 ≤ b.1).flatMap (·.2)

mutual

/-- The faults of a document as a schema. -/
def schemaFaults : Json → List SchemaFault
  | bool _ => []
  | object fields => inOrder (keywordFaults fields)
  | _ => [.invalid]

/-- The faults of the fields of an object under the rules of the keywords. -/
def keywordFaults : List (String × Json) → List (Nat × List SchemaFault)
  | [] => []
  | (name, value) :: rest =>
    (KeywordRule.rank name, ruleFaults (KeywordRule.ofName name) value) :: keywordFaults rest

/-- The faults of a value under a rule. -/
def ruleFaults (rule : KeywordRule) : Json → List SchemaFault
  | array items =>
    match rule with
    | .schemas => if items.isEmpty then [.invalid] else itemFaults items
    | rule => rule.faults (array items)
  | object fields =>
    match rule with
    | .schema => inOrder (keywordFaults fields)
    | .schemasByName => namedFaults fields
    | .schemasByExpression =>
      namedFaults fields ++ fields.flatMap fun f => KeywordRule.expressionFaults f.1
    | .schemasOrTextsByName => eitherFaults fields
    | rule => rule.faults (object fields)
  | bool b => if rule = .schema then [] else rule.faults (bool b)
  | value => rule.faults value

/-- The faults of the documents of a list as schemas. -/
def itemFaults : List Json → List SchemaFault
  | [] => []
  | item :: rest => item.schemaFaults ++ itemFaults rest

/-- The faults of the values of an object as schemas. -/
def namedFaults : List (String × Json) → List SchemaFault
  | [] => []
  | (_, value) :: rest => value.schemaFaults ++ namedFaults rest

/-- The faults of the values of an object as schemas or lists of texts. -/
def eitherFaults : List (String × Json) → List SchemaFault
  | [] => []
  | (_, value) :: rest =>
    SchemaFault.ofEither value.schemaFaults (KeywordRule.isTexts value) ++ eitherFaults rest

end

end Json
end LineMeasure
