import LineMeasure.Binary64.Shortest
import LineMeasure.Text.Quoted

/-!
# Documents

Structured data as it is exchanged: null, truth values, integers, floating point numbers, texts,
arrays, and objects whose fields keep their order. `display` is how a value is shown inside a
message.
-/

namespace LineMeasure

/-- A document; the keys of an object are different from each other. -/
inductive Json where
  | null
  | bool (b : Bool)
  | int (n : Int)
  | float (x : Binary64)
  | text (s : String)
  | array (items : List Json)
  | object (fields : List (String × Json))
  deriving Inhabited

/-- A step from a document to one of its parts. -/
inductive Step where
  | key (name : String)
  | index (i : Nat)
  deriving DecidableEq

namespace Json

/-- The value of a field of an object. -/
def field? (name : String) (fields : List (String × Json)) : Option Json :=
  fields.lookup name

/-- Whether the fields of an object contain a name. -/
def hasField (name : String) (fields : List (String × Json)) : Bool :=
  (fields.lookup name).isSome

mutual

/-- How a value is shown inside a message. -/
def display : Json → String
  | null => "None"
  | bool true => "True"
  | bool false => "False"
  | int n => toString n
  | float x => x.text
  | text s => Text.quoted s
  | array items => "[" ++ displayItems items ++ "]"
  | object fields => "\x7b" ++ displayFields fields ++ "\x7d"

/-- The items of an array, separated by commas. -/
def displayItems : List Json → String
  | [] => ""
  | [item] => item.display
  | item :: rest => item.display ++ ", " ++ displayItems rest

/-- The fields of an object, separated by commas. -/
def displayFields : List (String × Json) → String
  | [] => ""
  | [(name, value)] => Text.quoted name ++ ": " ++ value.display
  | (name, value) :: rest => Text.quoted name ++ ": " ++ value.display ++ ", " ++ displayFields rest

end

end Json
end LineMeasure
