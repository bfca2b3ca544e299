import LineMeasure.Contract.Shape

/-!
# The contracts

Four kinds of documents are exchanged: intervals, sets, covers and reports on a measure. Each has a
contract, which is a name and a shape. A number is written as a text there, and an infinite end of
an interval as null.
-/

namespace LineMeasure

/-- A kind of documents with an agreed shape. -/
inductive Contract where
  | interval
  | realSet
  | cover
  | measureReport
  deriving DecidableEq

namespace Contract

/-- All contracts. -/
def all : List Contract :=
  [interval, realSet, cover, measureReport]

/-- The name of a contract. -/
def name : Contract → String
  | interval => "interval"
  | realSet => "real_set"
  | cover => "cover"
  | measureReport => "measure_report"

/-- The contract of a name. -/
def ofName? (name : String) : Option Contract :=
  all.find? fun c => c.name == name

/-- A rational number. -/
def rationalShape : Shape :=
  .text (some .rational)

/-- A nonnegative rational number or infinity. -/
def extendedShape : Shape :=
  .text (some .extended)

/-- An interval: its ends, and whether they belong to it. -/
def intervalFields : List (String × Shape) :=
  [("left", .optional rationalShape), ("right", .optional rationalShape),
    ("left_closed", .truth), ("right_closed", .truth)]

/-- The pieces of a set. -/
def componentFields : List (String × Shape) :=
  [("components", .list (.record intervalFields true))]

/-- One term of the finite part of a cover. -/
def termShape : Shape :=
  .record [("left", rationalShape), ("right", rationalShape)] true

/-- The endless part of a cover. -/
def tailShape : Shape :=
  .record [("total", extendedShape), ("description", .text none)] true

/-- The certificate for one interval. -/
def certificateShape : Shape :=
  .record
    [("a", rationalShape), ("b", rationalShape), ("covered", .truth), ("x_star", rationalShape),
      ("terms_examined", .count)]
    true

/-- The fields of the documents of a contract, in the order in which they are required. -/
def fields : Contract → List (String × Shape)
  | interval => intervalFields
  | realSet => componentFields
  | cover => [("terms", .list termShape), ("tail", .optional tailShape)]
  | measureReport =>
    [("set", .record componentFields false), ("value", extendedShape),
      ("witness_eps", .text (some .nonnegative)), ("witness_total", extendedShape),
      ("certificates", .list certificateShape), ("details", .text none)]

/-- The shape of the documents of a contract: its fields and no others. -/
def shape (c : Contract) : Shape :=
  .record c.fields true

/-- Everything that is wrong with a document of the contract. -/
def violations (c : Contract) (document : Json) : List Violation :=
  c.shape.violations document

/-- The places and the rules of all violations, in order. -/
def report (c : Contract) (document : Json) : List (String × String) :=
  Text.sortedPairs ((c.violations document).map fun v => (v.place, v.breach.keyword))

end Contract
end LineMeasure
