import LineMeasure.Binary64.Shortest
import LineMeasure.ENNRat.Basic
import LineMeasure.Interval.Basic
import LineMeasure.Json.Basic
import LineMeasure.Rational.Literal

/-!
# Given values

What a caller may hand in where a number is asked for. Integers, rational numbers, finite floating
point numbers, finite decimals and rational literals stand for exact numbers; `toRat` reads them and
says why anything else is no number. Truth values are no numbers.
-/

namespace LineMeasure

/-- A decimal that is no finite number: an infinity, or not-a-number with the text that it shows. -/
inductive SpecialDecimal where
  | infinity (negative : Bool)
  | nan (signaling : Bool) (written : String)
  deriving DecidableEq

namespace SpecialDecimal

/-- The special decimal that is shown by a text. -/
def ofText (s : String) : SpecialDecimal :=
  if s = "Infinity" then infinity false
  else if s = "-Infinity" then infinity true
  else nan (s.toList.any fun c => c == 's' || c == 'S') s

/-- How a special decimal is shown. -/
def text : SpecialDecimal → String
  | infinity false => "Infinity"
  | infinity true => "-Infinity"
  | nan _ written => written

end SpecialDecimal

/-- A value given by a caller. The contents of lists and dictionaries are never looked at. -/
inductive Value where
  | null
  | bool (b : Bool)
  | int (n : Int)
  | rational (q : Rat)
  | float (x : Binary64)
  | decimal (q : Rat)
  | specialDecimal (d : SpecialDecimal)
  | text (s : String)
  | list
  | dict
  | extended (e : ENNRat)
  | interval (i : Interval)
  deriving DecidableEq, Inhabited

/-- Why a value is no number, or not one of the numbers that are asked for. -/
inductive NumberFault where
  | bool (b : Bool)
  | float (x : Binary64)
  | decimal (d : SpecialDecimal)
  | text (s : String)
  | kind (found : String)
  | notPositive (q : Rat)
  | negative (q : Rat)
  | below (bound q : Rat)
  | above (bound q : Rat)
  deriving DecidableEq

namespace NumberFault

/-- What is wrong with a number that is called `name`. -/
def message (name : String) : NumberFault → String
  | bool b => name ++ " must be a real number, got bool " ++ (if b then "True" else "False")
  | float x => name ++ " must be a valid float (not NaN/Inf), got " ++ x.text
  | decimal d => name ++ " must be a finite decimal (not NaN/Inf), got " ++ d.text
  | text s => name ++ " must be a rational literal, got " ++ Text.quoted s
  | kind found => name ++ " must be int/Fraction/str/float, got " ++ found
  | notPositive q => name ++ " must be positive, got " ++ Rational.text q
  | negative q => name ++ " must be non-negative, got " ++ Rational.text q
  | below bound q =>
    name ++ " must be >= " ++ Rational.text bound ++ ", got " ++ Rational.text q
  | above bound q =>
    name ++ " must be <= " ++ Rational.text bound ++ ", got " ++ Rational.text q

end NumberFault

namespace Value

/-- The name of the kind of a value. -/
def kind : Value → String
  | null => "NoneType"
  | bool _ => "bool"
  | int _ => "int"
  | rational _ => "Fraction"
  | float _ => "float"
  | decimal _ | specialDecimal _ => "Decimal"
  | text _ => "str"
  | list => "list"
  | dict => "dict"
  | extended _ => "ENNReal"
  | interval _ => "Interval"

/-- The exact number that a value stands for. -/
def toRat : Value → Except NumberFault Rat
  | bool b => .error (.bool b)
  | int n => .ok n
  | rational q => .ok q
  | float x =>
    match x.value? with
    | some q => .ok q
    | none => .error (.float x)
  | decimal q => .ok q
  | specialDecimal d => .error (.decimal d)
  | text s =>
    match Rational.ofText? s with
    | some q => .ok q
    | none => .error (.text s)
  | v => .error (.kind v.kind)

/-- A number above zero. -/
def toPositive (v : Value) : Except NumberFault Rat := do
  let q ← v.toRat
  if q ≤ 0 then throw (.notPositive q)
  return q

/-- A number that is not below zero. -/
def toNonnegative (v : Value) : Except NumberFault Rat := do
  let q ← v.toRat
  if q < 0 then throw (.negative q)
  return q

/-- A number between two bounds, where these are given. -/
def toRange (low high : Option Rat) (v : Value) : Except NumberFault Rat := do
  let q ← v.toRat
  if let some bound := low then
    if q < bound then throw (.below bound q)
  if let some bound := high then
    if bound < q then throw (.above bound q)
  return q

/-- A rational number as an extended one. -/
def extendedOfRat (q : Rat) : Except NumberFault ENNRat :=
  match ENNRat.ofRat? q with
  | some e => .ok e
  | none => .error (.negative q)

/-- The extended number that a value stands for. -/
def toENNRat : Value → Except NumberFault ENNRat
  | extended e => .ok e
  | v => do extendedOfRat (← v.toRat)

/-- A document as a given value. -/
def ofJson : Json → Value
  | .null => .null
  | .bool b => .bool b
  | .int n => .int n
  | .float x => .float x
  | .text s => .text s
  | .array _ => .list
  | .object _ => .dict

end Value
end LineMeasure
