import LineMeasure.Pattern.Flags
import LineMeasure.Pattern.Repetition
import LineMeasure.Pattern.Scope
import LineMeasure.Pattern.Width
import LineMeasure.Rational.Literal
import LineMeasure.Text.Identifier

/-!
# Reading regular expressions

The tokens of a text are read from left to right as alternatives of sequences of items, and the
groups are kept in mind on the way; the first fault ends the reading. In the verbose mode blanks and
the rests of lines behind `#` are left out. Flags that exclude each other, parentheses without
partner, groups that are only awaited and widths are looked at when everything has been read. The
depth of the recursion is bounded by the number of tokens, because of any four nested calls one
reads a token.
-/

namespace LineMeasure.Pattern

/-- Reading with what is known about groups. -/
abbrev Reading := StateT Scope (Except PatternFault)

/-- The name that tokens spell. -/
def identifier? (tokens : List Token) : Option String := do
  let name ← Token.plainText? tokens
  if Text.isIdentifier name then return String.ofList name else none

/-- A group number, which may stand between blanks other than the separators U+001C to U+001F. -/
def groupNumber? (cs : List Char) : Option Nat :=
  if cs.any fun c => 0x1C ≤ c.toNat && c.toNat ≤ 0x1F then none
  else (Rational.exponent? (Text.trim cs)).bind Int.toNat?

/-- The target of a condition: the number or the name of a group. -/
def readCondition? (tokens : List Token) : Option (GroupName × List Token) := do
  let (target, rest) ← Token.readUntil? ')' tokens
  match identifier? target with
  | some name => return (.name name, rest)
  | none => return (.number (← groupNumber? (← Token.plainText? target)), rest)

/-- What follows the parenthesis that closes a group. -/
def close? : List Token → Option (List Token)
  | .plain ')' :: rest => some rest
  | _ => none

/-- A reference to a group. -/
def readReference (target : GroupName) : Reading Pattern := do
  return .reference (← require ((← get).reference? target))

/-- The item of a character behind a backslash. -/
def readEscaped (c : Char) (rest : List Token) : Reading (Pattern × List Token) := do
  let (found, rest) ← readEscape c rest
  match found with
  | .position => return (.position, rest)
  | .character => return (.character, rest)
  | .group n => return (← readReference (.number n), rest)

/-- The group that a condition speaks of. -/
def enterCondition (target : GroupName) : Reading Nat := do
  let (n, scope) ← require ((← get).condition? target)
  set scope
  return n

/-- The number of a group that begins. -/
def enterGroup (name : Option String) : Reading Nat := do
  let (n, scope) ← require ((← get).openGroup? name)
  set scope
  return n

mutual

/-- Alternatives, up to a closing parenthesis or the end. -/
def readAlternatives : Nat → Bool → List Token → Reading (Pattern × List Token)
  | 0, _, _ => throw .malformed
  | fuel + 1, verbose, tokens => do
    let (first, rest) ← readSequence fuel verbose [] tokens
    match rest with
    | .plain '|' :: rest =>
      let (second, rest) ← readAlternatives fuel verbose rest
      return (.alt first second, rest)
    | rest => return (first, rest)

/-- Items up to the end of an alternative, behind those read before, the last of which is first. -/
def readSequence : Nat → Bool → List Pattern → List Token → Reading (Pattern × List Token)
  | 0, _, _, _ => throw .malformed
  | _, _, before, [] => return (ofItems before.reverse, [])
  | _, _, _, .cutOff :: _ => throw .malformed
  | fuel + 1, verbose, before, .escaped c :: rest => do
    let (item, rest) ← readEscaped c rest
    readSequence fuel verbose (item :: before) rest
  | fuel + 1, verbose, before, .half _ :: rest =>
    readSequence fuel verbose (.character :: before) rest
  | fuel + 1, verbose, before, .plain c :: rest =>
    if c == '|' || c == ')' then return (ofItems before.reverse, .plain c :: rest)
    else if verbose && isLayout c then readSequence fuel verbose before rest
    else if verbose && c == '#' then
      readSequence fuel verbose before (Token.skipThrough '\n' rest)
    else if c == '[' then do
      let items := if rest.head? = some (.plain '^') then rest.drop 1 else rest
      let rest ← readClass (rest.length + 1) false items
      readSequence fuel verbose (.character :: before) rest
    else if c == '(' then do
      let (item, rest) ← readGroup fuel verbose rest
      readSequence fuel verbose (item.toList ++ before) rest
    else if c == '^' || c == '$' then readSequence fuel verbose (.position :: before) rest
    else
      match readBounds? (.plain c :: rest) with
      | some (bounds, rest) => do
        let (items, rest) ← repeatLast bounds before rest
        readSequence fuel verbose items rest
      | none => readSequence fuel verbose (.character :: before) rest

/-- A group behind its opening parenthesis; a comment is no item. -/
def readGroup : Nat → Bool → List Token → Reading (Option Pattern × List Token)
  | 0, _, _ => throw .malformed
  | fuel + 1, verbose, .plain '?' :: .plain c :: rest =>
    if c == 'P' then
      match rest with
      | .plain '<' :: rest => do
        let (name, rest) ← require (Token.readUntil? '>' rest)
        readCapture fuel verbose (some (← require (identifier? name))) rest
      | .plain '=' :: rest => do
        let (name, rest) ← require (Token.readUntil? ')' rest)
        return (some (← readReference (.name (← require (identifier? name)))), rest)
      | _ => throw .malformed
    else if c == '#' then return (none, ← require (skipComment? rest))
    else if c == '=' || c == '!' then do
      let (body, rest) ← readAlternatives fuel verbose rest
      return (some (.look false body), ← require (close? rest))
    else if c == '<' then
      match rest with
      | .plain c :: rest => do
        if c != '=' && c != '!' then throw .malformed
        let limit := (← get).limit
        modify Scope.lookBack
        let (body, rest) ← readAlternatives fuel verbose rest
        modify fun scope => { scope with limit }
        return (some (.look true body), ← require (close? rest))
      | _ => throw .malformed
    else if c == '(' then do
      let (target, rest) ← require (readCondition? rest)
      let n ← enterCondition target
      let (yes, rest) ← readSequence fuel verbose [] rest
      match rest with
      | .plain '|' :: rest =>
        let (no, rest) ← readSequence fuel verbose [] rest
        return (some (.conditional n yes no), ← require (close? rest))
      | rest => return (some (.conditional n yes .empty), ← require (close? rest))
    else if c == '>' then do
      let (body, rest) ← readAlternatives fuel verbose rest
      return (some (.enclosed body), ← require (close? rest))
    else
      match readFlags? (.plain c :: rest) with
      | some (.inGroup added removed, rest) => do
        let (body, rest) ←
          readAlternatives fuel ((verbose || added.contains 'x') && !removed.contains 'x') rest
        return (some (.enclosed body), ← require (close? rest))
      | _ => throw .malformed
  | _, _, .plain '?' :: _ => throw .malformed
  | fuel + 1, verbose, tokens => readCapture fuel verbose none tokens

/-- A group that can be referred to, behind what introduces it. -/
def readCapture : Nat → Bool → Option String → List Token → Reading (Option Pattern × List Token)
  | 0, _, _, _ => throw .malformed
  | fuel + 1, verbose, name, tokens => do
    let n ← enterGroup name
    let (body, rest) ← readAlternatives fuel verbose tokens
    modify (Scope.closeGroup · n)
    return (some (.capture n body), ← require (close? rest))

end

/-- The expression that a text is, or why it is none. The flag `t` excludes repetitions. -/
def ofText (s : String) : Except PatternFault Pattern := do
  let tokens := Token.ofCodePoints (Text.codePoints s.toList)
  let (flags, rest) := readPrelude tokens.length [] tokens
  let ((p, rest), scope) ←
    (readAlternatives (4 * rest.length + 4) (flags.contains 'x') rest).run .start
  if flags.contains 'a' && flags.contains 'u' then throw .clashingFlags
  if !rest.isEmpty || !scope.isComplete || (flags.contains 't' && p.hasRepetition) then
    throw .malformed
  let (_, measures) ← require (p.measure? .none)
  if farthestLook < measures.reach then throw .farLook
  return p

end LineMeasure.Pattern
