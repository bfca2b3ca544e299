import LineMeasure.Pattern.Token

/-!
# Flags of regular expressions

Flags are letters in parentheses. They hold for one group, or for the whole expression when they
stand at its beginning, among comments and, in the verbose mode, blanks.
-/

namespace LineMeasure.Pattern

/-- Flags for the whole expression, or flags that are added and removed for one group. -/
inductive Flags where
  | whole (added : List Char)
  | inGroup (added removed : List Char)

/-- The letters for flags. -/
def isFlag (c : Char) : Bool :=
  "aimstux".toList.contains c

/-- Flags up to the parenthesis that closes them, or up to the colon before their expression. -/
def readFlags? (tokens : List Token) : Option (Flags × List Token) :=
  let (added, rest) := Token.takePlain isFlag tokens.length tokens
  if added.contains 'a' && added.contains 'u' then none
  else
    match rest with
    | .plain ')' :: rest => if added.isEmpty then none else some (.whole added, rest)
    | .plain ':' :: rest => if added.contains 't' then none else some (.inGroup added [], rest)
    | .plain '-' :: rest =>
      match Token.takePlain isFlag rest.length rest with
      | (removed, .plain ':' :: rest) =>
        if removed.isEmpty || added.contains 't' || removed.any (fun c => "atu".toList.contains c)
            || removed.any added.contains then none
        else some (.inGroup added removed, rest)
      | _ => none
    | _ => none

/-- A blank that is left out in the verbose mode. -/
def isLayout (c : Char) : Bool :=
  c == ' ' || (9 ≤ c.toNat && c.toNat ≤ 13)

/-- What follows a comment in parentheses. -/
def skipComment? (tokens : List Token) : Option (List Token) :=
  (Token.readUntil? ')' tokens).map (·.2)

/-- The flags for the whole expression, added to those read before, and what follows them. -/
def readPrelude : Nat → List Char → List Token → List Char × List Token
  | fuel + 1, flags, .plain '(' :: .plain '?' :: .plain '#' :: rest =>
    match skipComment? rest with
    | some rest => readPrelude fuel flags rest
    | none => (flags, .plain '(' :: .plain '?' :: .plain '#' :: rest)
  | fuel + 1, flags, .plain '(' :: .plain '?' :: rest =>
    match readFlags? rest with
    | some (.whole added, rest) => readPrelude fuel (flags ++ added) rest
    | _ => (flags, .plain '(' :: .plain '?' :: rest)
  | fuel + 1, flags, .plain c :: rest =>
    if flags.contains 'x' && isLayout c then readPrelude fuel flags rest
    else if flags.contains 'x' && c == '#' then readPrelude fuel flags (Token.skipThrough '\n' rest)
    else (flags, .plain c :: rest)
  | _, flags, tokens => (flags, tokens)

end LineMeasure.Pattern
