/-!
# Regular expressions

The syntax trees of regular expressions, kept as far as it matters which texts are regular
expressions: groups and references to them, repetitions, alternatives, and parts that stand for one
character or for none. Which characters a part accepts is not kept. Groups are numbered from one on,
in the order in which they are opened. Patterns in a schema have to be regular expressions, so that
a document with any other pattern is refused (`Json.schemaFaults`).
-/

namespace LineMeasure

/-- Why a text is not accepted as a regular expression: it breaks the rules, a number of repetitions
or of a code point is too large to be looked at, its flags exclude each other, or a look backwards
reaches too far. -/
inductive PatternFault where
  | malformed
  | numberTooLarge
  | clashingFlags
  | farLook
  deriving DecidableEq

/-- A regular expression. -/
inductive Pattern where
  | empty
  | character
  | position
  | enclosed (body : Pattern)
  | capture (group : Nat) (body : Pattern)
  | look (behind : Bool) (body : Pattern)
  | reference (group : Nat)
  | conditional (group : Nat) (yes no : Pattern)
  | repetition (least : Nat) (most : Option Nat) (body : Pattern)
  | seq (first second : Pattern)
  | alt (first second : Pattern)

namespace Pattern

/-- What has to be there for an expression to be well formed. -/
def require {α : Type} (found : Option α) : Except PatternFault α :=
  match found with
  | some a => .ok a
  | none => .error .malformed

/-- The expressions of a list one after the other. -/
def ofItems (items : List Pattern) : Pattern :=
  items.foldr seq empty

/-- Whether anything is repeated in an expression. -/
def hasRepetition : Pattern → Bool
  | empty | character | position | reference _ => false
  | enclosed body | capture _ body | look _ body => body.hasRepetition
  | repetition _ _ _ => true
  | conditional _ first second | seq first second | alt first second =>
    first.hasRepetition || second.hasRepetition

end Pattern
end LineMeasure
