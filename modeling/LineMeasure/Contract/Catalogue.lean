import LineMeasure.Contract.Path
import LineMeasure.Error

/-!
# Catalogues of schemas

A catalogue finds schemas by their names: the contracts of the library, or documents that are given
with their names. A name is a path, from the directory of the catalogue, to a file without the
ending of its name. A given document has to be a schema. What is read off a schema is its title, the
names of the required fields, and the names of all described fields.
-/

namespace LineMeasure

/-- What is read off a schema. -/
structure SchemaSummary where
  title : Option String
  required : Option (List String)
  properties : List String
  deriving DecidableEq

/-- Where schemas are found: in the directory of the contracts, in a directory of given documents,
or in some other directory, which holds no schemas. -/
inductive Catalogue where
  | contracts
  | documents (schemas : List (String × Json))
  | elsewhere (directory : Path)

namespace SchemaSummary

/-- The summary of the schema of a contract. -/
def ofContract (c : Contract) : SchemaSummary :=
  let names := c.fields.map (·.1)
  ⟨some c.name, some names, Text.sorted names⟩

/-- The summary of a schema that is given as a document. -/
def ofJson : Json → SchemaSummary
  | .object fields =>
    { title := match Json.field? "title" fields with
        | some (.text s) => some s
        | _ => none
      required := match Json.field? "required" fields with
        | some (.array items) => KeywordRule.textsOf? items
        | _ => none
      properties := match Json.field? "properties" fields with
        | some (.object properties) => Text.sorted (properties.map (·.1))
        | _ => [] }
  | _ => ⟨none, none, []⟩

end SchemaSummary

namespace Catalogue

/-- The catalogue itself, unless its directory is missing. -/
def opened : Catalogue → Except Error Catalogue
  | elsewhere directory =>
    if directory.isUpward then .ok (elsewhere directory)
    else .error (.noCatalogue directory.text)
  | catalogue => .ok catalogue

/-- The path of the file of a schema. -/
def pathOf (name : String) : Path :=
  .ofText (name ++ ".json")

/-- The directory of the contracts, the last step to it first. -/
def home : List String :=
  ["schema", "contracts"]

/-- The contract whose file has a name. -/
def contract? (file : String) : Option Contract :=
  Contract.all.find? fun c => c.name ++ ".json" == file

/-- The files of given documents. -/
def files (schemas : List (String × Json)) : List (String × Json) :=
  schemas.filterMap fun schema => ((pathOf schema.1).fileIn? []).map (·, schema.2)

/-- The summary of the schema of a name. -/
def load (catalogue : Catalogue) (name : String) : Except Error SchemaSummary :=
  match catalogue with
  | contracts =>
    match ((pathOf name).fileIn? home).bind contract? with
    | some c => .ok (.ofContract c)
    | none => .error (.noSchema name)
  | documents schemas =>
    match ((pathOf name).fileIn? []).bind ((files schemas).reverse.lookup ·) with
    | some document =>
      match document.schemaFaults with
      | [] => .ok (.ofJson document)
      | fault :: _ => .error (.schema name fault)
    | none => .error (.noSchema name)
  | elsewhere directory => do
    let _ ← (elsewhere directory).opened
    throw (.noSchema name)

end Catalogue
end LineMeasure
