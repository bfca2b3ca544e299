import LineMeasure.Contract.Basic
import LineMeasure.Contract.MetaSchema
import LineMeasure.Interval.HalfOpen
import LineMeasure.Record.RealSet

/-!
# Errors

Everything that can go wrong, by its cause. `message` is the wording of each cause. Conditions on
limits, covers, the covering argument and the parameters of a computation form groups of their own.
-/

namespace LineMeasure

/-- Why a family of values has no exact limit. -/
inductive LimitFault where
  | tooFewProbes (count : Nat)
  | probesNotPositive (probes : List Rat)
  | probesNotDecreasing (probes : List Rat)
  | mixed (values : List ENNRat)
  | notAffine (values : List Rat)
  | negative (limit : Rat)
  deriving DecidableEq

/-- What is wrong with a cover. -/
inductive CoverFault where
  | term (index : Nat) (found : Interval)
  | unknownSpan
  | uncovered (set : RealSet)
  deriving DecidableEq

/-- How the covering argument for an interval breaks down. -/
inductive CompactnessFault where
  | belowLength (total : ENNRat)
  | insideTerm (reach : Rat) (term : Interval)
  | noProgress
  deriving DecidableEq

/-- Which parameter of a computation is not allowed. -/
inductive ConfigFault where
  | tooFewProbes (count : Nat)
  | probesOutOfRange (probes : List Rat)
  | probesNotDecreasing (probes : List Rat)
  | coverTerms (n : Int)
  | probeTerms (n : Int)
  | padding (q : Rat)
  | reportEps (q : Rat)
  deriving DecidableEq

/-- Everything that can go wrong. -/
inductive Error where
  | number (name : String) (fault : NumberFault)
  | record (faults : List RecordFault)
  | infinite
  | operand
  | order (low high : Rat)
  | negativeIndex (n : Int)
  | count
  | limit (fault : LimitFault)
  | cover (fault : CoverFault)
  | config (fault : ConfigFault)
  | compactness (target : HalfOpen) (fault : CompactnessFault)
  | noSet (kind : String)
  | noExpression (kind : String)
  | testInterval (found : Interval)
  | notSubset (inner outer : RealSet)
  | splitPoint (a b m : Rat)
  | notMeasurable (set : RealSet)
  | raysNotMeasurable (set : RealSet)
  | notBorel (set : RealSet)
  | contract (violation : Violation)
  | unknownContract (name : String)
  | noCatalogue (directory : String)
  | noSchema (name : String)
  | schema (name : String) (fault : SchemaFault)
  | overflow
  | signaling
  deriving Inhabited

namespace Rational

/-- Rational numbers as they are listed with their parts. -/
def partsText (qs : List Rat) : String :=
  let part (q : Rat) := "Fraction(" ++ toString q.num ++ ", " ++ toString q.den ++ ")"
  "[" ++ ", ".intercalate (qs.map part) ++ "]"

end Rational

namespace LimitFault

/-- The wording of the fault. -/
def message : LimitFault → String
  | tooFewProbes count => "need at least 3 probes, got " ++ toString count
  | probesNotPositive probes => "probes must be positive, got " ++ Rational.partsText probes
  | probesNotDecreasing probes =>
    "probes must be strictly decreasing, got " ++ Rational.partsText probes
  | mixed values =>
    "family mixes finite and infinite values: " ++ Text.quotedList (values.map ENNRat.text)
  | notAffine values =>
    "family is not affine on probes: values=" ++ Text.quotedList (values.map Rational.text)
  | negative limit => "limit must be non-negative, got " ++ Rational.text limit

end LimitFault

namespace CoverFault

/-- The wording of the fault. -/
def message : CoverFault → String
  | term index found =>
    "cover term #" ++ toString index ++ " must be a half-open interval [a, b), got " ++ found.text
  | unknownSpan => "tail span is unknown: max_terms is required"
  | uncovered set => "cover does not cover " ++ set.text

end CoverFault

namespace CompactnessFault

/-- The wording of the fault, for the interval that was to be covered. -/
def message (target : HalfOpen) : CompactnessFault → String
  | belowLength total =>
    "cover total " ++ total.text ++ " below certified length "
      ++ Rational.text (target.right - target.left)
  | insideTerm reach term =>
    "x*=" ++ Rational.text reach ++ " < b=" ++ Rational.text target.right
      ++ " lies inside cover term " ++ term.text
  | noProgress => "progress set is empty on " ++ target.toInterval.text

end CompactnessFault

namespace ConfigFault

/-- The wording of the fault. -/
def message : ConfigFault → String
  | tooFewProbes count => "limit_probes needs at least 3 values, got " ++ toString count
  | probesOutOfRange probes =>
    "limit_probes must lie in (0, 1], got " ++ Text.quotedList (probes.map Rational.text)
  | probesNotDecreasing probes =>
    "limit_probes must be strictly decreasing, got " ++ Text.quotedList (probes.map Rational.text)
  | coverTerms n => "max_cover_terms must be positive, got " ++ toString n
  | probeTerms n => "generation_probe_terms must be positive, got " ++ toString n
  | padding q => "test_grid_padding must be positive, got " ++ Rational.text q
  | reportEps q => "report_eps must be positive, got " ++ Rational.text q

end ConfigFault

namespace SchemaFault

/-- What is wrong with the schema of a name. -/
def message (name : String) : SchemaFault → String
  | invalid => "Invalid JSON Schema in " ++ name ++ ".json"
  | numberTooLarge => "the number is too large"
  | clashingFlags => "ASCII and UNICODE flags are incompatible"
  | farLook => "invalid SRE code"

end SchemaFault

namespace Error

/-- The wording of an error. -/
def message : Error → String
  | number name fault => fault.message name
  | record faults => "; ".intercalate (faults.map RecordFault.message)
  | infinite => "cannot convert infinite ENNReal to Fraction"
  | operand => "unsupported operand"
  | order low high =>
    "lo must be <= hi, got lo=" ++ Rational.text low ++ ", hi=" ++ Rational.text high
  | negativeIndex n => "term index must be non-negative, got " ++ toString n
  | count => "Stop argument for islice() must be None or an integer: 0 <= x <= sys.maxsize."
  | limit fault => fault.message
  | cover fault => fault.message
  | config fault => fault.message
  | compactness target fault => fault.message target
  | noSet kind => "expected RealSet or Interval, got " ++ kind
  | noExpression kind => "unknown set expression " ++ kind
  | testInterval found => "test interval must be half-open [a, b), got " ++ found.text
  | notSubset inner outer => inner.text ++ " must be a subset of " ++ outer.text
  | splitPoint a b m =>
    "m must lie in [" ++ Rational.text a ++ ", " ++ Rational.text b ++ "], got " ++ Rational.text m
  | notMeasurable set => set.text ++ " is not Caratheodory-measurable"
  | raysNotMeasurable set =>
    "rays generating " ++ set.text ++ " are not Caratheodory-measurable"
  | notBorel set => set.text ++ " is not generated by rays"
  | contract violation => violation.breach.message
  | unknownContract name =>
    "unknown contract " ++ Text.quoted name ++ ", expected one of ("
      ++ ", ".intercalate (Contract.all.map fun c => Text.quoted c.name) ++ ")"
  | noCatalogue directory => "Schema directory not found: " ++ directory
  | noSchema name => "no schema " ++ name
  | schema name fault => fault.message name
  | overflow => "integer division result too large for a float"
  | signaling => "cannot convert signaling NaN to float"

end Error

namespace Value

/-- The number that a value stands for, under the name that an error message gives it. -/
def real (name : String) (v : Value) : Except Error Rat :=
  v.toRat.mapError (.number name)

/-- A positive number, under the name that an error message gives it. -/
def positive (name : String) (v : Value) : Except Error Rat :=
  v.toPositive.mapError (.number name)

/-- The extended number that a value stands for. -/
def ennrat (v : Value) : Except Error ENNRat :=
  v.toENNRat.mapError (.number "ENNReal value")

end Value

namespace ENNRat

/-- A rational number as an extended one; a negative one is an error. -/
def ofRat (q : Rat) : Except Error ENNRat :=
  (Value.extendedOfRat q).mapError (.number "ENNReal value")

/-- The number that a text stands for, `inf` being infinity. -/
def ofText (s : String) : Except Error ENNRat :=
  if s = "inf" then .ok .infinite
  else do ofRat (← (Value.text s).real "ENNReal literal")

/-- The value of a finite number. -/
def toRat : ENNRat → Except Error Rat
  | finite value _ => .ok value
  | infinite => .error .infinite

end ENNRat

namespace Contract

/-- The contract of a name. -/
def ofName (name : String) : Except Error Contract :=
  match ofName? name with
  | some c => .ok c
  | none => .error (.unknownContract name)

/-- The document itself, when it keeps the contract; otherwise its first violation. -/
def conform (c : Contract) (document : Json) : Except Error Json :=
  match c.violations document with
  | [] => .ok document
  | violation :: _ => .error (.contract violation)

end Contract
end LineMeasure
