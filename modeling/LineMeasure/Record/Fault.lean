import LineMeasure.Value

/-!
# Faults of records

An interval or a set can be built from a record of raw fields. When that fails, every faulty field
is reported once, with the path to it, what is wrong, and the class of the fault.
-/

namespace LineMeasure

/-- The two ends of an interval. -/
inductive Side where
  | left
  | right
  deriving DecidableEq

/-- Where a record comes from: values at hand, or a document. -/
inductive Origin where
  | memory
  | document
  deriving DecidableEq

/-- What a record describes. -/
inductive RecordKind where
  | interval
  | realSet
  deriving DecidableEq

/-- What is wrong with a field of a record, or with the record itself. -/
inductive FieldFault where
  | endpoint (fault : NumberFault)
  | infiniteClosed (side : Side)
  | noFlag
  | unclearFlag
  | halfSurrogate
  | noRecord (kind : RecordKind) (origin : Origin)
  | noList (origin : Origin)
  | frozen
  deriving DecidableEq

/-- A fault and the path to it. -/
structure RecordFault where
  path : List Step
  fault : FieldFault
  deriving DecidableEq

namespace Side

/-- The name of an end. -/
def name : Side → String
  | left => "left"
  | right => "right"

end Side

namespace RecordKind

/-- The name of the kind. -/
def name : RecordKind → String
  | interval => "Interval"
  | realSet => "RealSet"

end RecordKind

namespace FieldFault

/-- What is wrong, in words. -/
def message : FieldFault → String
  | endpoint fault => "Value error, " ++ fault.message "endpoint"
  | infiniteClosed side => "Value error, infinite " ++ side.name ++ " endpoint cannot be closed"
  | noFlag => "Input should be a valid boolean"
  | unclearFlag => "Input should be a valid boolean, unable to interpret input"
  | halfSurrogate => "Input should be a valid string, unable to parse raw data as a unicode string"
  | noRecord kind .memory => "Input should be a valid dictionary or instance of " ++ kind.name
  | noRecord _ .document => "Input should be an object"
  | noList .memory => "Input should be a valid tuple"
  | noList .document => "Input should be a valid array"
  | frozen => "Instance is frozen"

/-- The class of the fault. -/
def category : FieldFault → String
  | endpoint _ | infiniteClosed _ => "value_error"
  | noFlag => "bool_type"
  | unclearFlag => "bool_parsing"
  | halfSurrogate => "string_unicode"
  | noRecord _ _ => "model_type"
  | noList _ => "tuple_type"
  | frozen => "frozen_instance"

end FieldFault

namespace RecordFault

/-- One step of a path, as text. -/
def stepText : Step → String
  | .key name => name
  | .index i => toString i

/-- The fault with its path and its class. -/
def message (f : RecordFault) : String :=
  ".".intercalate (f.path.map stepText) ++ ": " ++ f.fault.message ++ " [" ++
    f.fault.category ++ "]"

/-- The same fault, seen from a record that has the faulty one as its part. -/
def under (steps : List Step) (f : RecordFault) : RecordFault :=
  ⟨steps ++ f.path, f.fault⟩

/-- A fault of one field. -/
def ofField (name : String) (fault : FieldFault) : RecordFault :=
  ⟨[.key name], fault⟩

end RecordFault
end LineMeasure
