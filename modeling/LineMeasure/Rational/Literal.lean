import LineMeasure.Rational.Basic
import LineMeasure.Text.Blank
import LineMeasure.Text.DecimalDigit

/-!
# Rational literals

The texts that stand for rational numbers: a sign, then a quotient `N/D`, or a decimal `N`, `N.`,
`N.F` or `.F` with an optional exponent. `N`, `D`, `F` and the exponent are groups of decimal
digits of any script; single underscores may stand between two digits of a group. Reading a text
goes through the tree of its parts, `Literal`, whose value is a separate function.
-/

namespace LineMeasure.Rational

/-- A literal without its sign; digits are kept by their values. -/
inductive Magnitude where
  | quotient (numerator denominator : List Nat)
  | decimal (whole fraction : List Nat) (exponent : Int)
  deriving DecidableEq

/-- A literal in its parts. -/
structure Literal where
  negative : Bool
  magnitude : Magnitude
  deriving DecidableEq

/-- The number written by decimal digits, the highest first. -/
def ofDigits (digits : List Nat) : Nat :=
  digits.foldl (fun n d => 10 * n + d) 0

/-- The value of the parts; a quotient by zero has none. -/
def Magnitude.value? : Magnitude → Option Rat
  | .quotient numerator denominator =>
    if ofDigits denominator = 0 then none
    else some (mkRat (ofDigits numerator) (ofDigits denominator))
  | .decimal whole fraction exponent =>
    some (ofDigits (whole ++ fraction) * power 10 (exponent - fraction.length))

/-- The signed value of a literal. -/
def Literal.value? (l : Literal) : Option Rat :=
  l.magnitude.value?.map fun q => if l.negative then -q else q

/-- The digits of a group. -/
def digitGroup? : List Char → Option (List Nat)
  | [] => none
  | c :: rest => do
    let d ← Text.digitValue? c
    match rest with
    | [] => some [d]
    | '_' :: rest => return d :: (← digitGroup? rest)
    | rest => return d :: (← digitGroup? rest)

/-- What stands before the first character of a kind, and what follows it if there is one. -/
def cutAt (p : Char → Bool) : List Char → List Char × Option (List Char)
  | [] => ([], none)
  | c :: rest =>
    if p c then ([], some rest)
    else
      let (before, after) := cutAt p rest
      (c :: before, after)

/-- The sign of a text and what follows it. -/
def splitSign : List Char → Bool × List Char
  | '-' :: rest => (true, rest)
  | '+' :: rest => (false, rest)
  | rest => (false, rest)

/-- The exponent of ten: a group of digits with an optional sign. -/
def exponent? (cs : List Char) : Option Int := do
  let (negative, group) := splitSign cs
  let n := ofDigits (← digitGroup? group)
  return if negative then -(n : Int) else n

/-- The digits before and after the point of `N`, `N.`, `N.F` or `.F`. -/
def mantissa? (cs : List Char) : Option (List Nat × List Nat) :=
  match cutAt (· == '.') cs with
  | (whole, none) => return (← digitGroup? whole, [])
  | ([], some fraction) => return ([], ← digitGroup? fraction)
  | (whole, some []) => return (← digitGroup? whole, [])
  | (whole, some fraction) => return (← digitGroup? whole, ← digitGroup? fraction)

/-- The parts of a literal without its sign. -/
def magnitude? (cs : List Char) : Option Magnitude :=
  match cutAt (· == '/') cs with
  | (numerator, some denominator) =>
    return .quotient (← digitGroup? numerator) (← digitGroup? denominator)
  | (decimal, none) => do
    let (mantissa, power) := cutAt (fun c => c == 'e' || c == 'E') decimal
    let (whole, fraction) ← mantissa? mantissa
    return .decimal whole fraction (← power.elim (some 0) exponent?)

/-- The parts of a literal. -/
def literal? (cs : List Char) : Option Literal := do
  let (negative, rest) := splitSign cs
  return ⟨negative, ← magnitude? rest⟩

/-- The number that a text stands for, when it is a literal between blanks. It may have any number
of digits: an interpreter's configurable limit on the digits of an integer is left out. -/
def ofText? (s : String) : Option Rat :=
  (literal? (Text.trim s.toList)).bind Literal.value?

end LineMeasure.Rational
