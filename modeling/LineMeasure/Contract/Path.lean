import LineMeasure.Text.Split

/-!
# Paths of schemas

A schema is a file in a directory, and it is found by a path. The steps of a path are separated by
slashes; empty steps and the step `.` stay in the directory, and the step `..` goes to the one above
it.
-/

namespace LineMeasure

/-- A path: the slashes at its beginning, none, one or two, and its steps. -/
structure Path where
  slashes : Nat
  steps : List String
  deriving DecidableEq

namespace Path

/-- The path that a text describes. More than two slashes at the beginning count as one. -/
def ofText (s : String) : Path :=
  let slashes := (s.toList.takeWhile (· == '/')).length
  let steps := (Text.fields '/' s.toList).map String.ofList
  ⟨if 2 < slashes then 1 else slashes, steps.filter fun step => step != "" && step != "."⟩

/-- The text of a path. -/
def text (p : Path) : String :=
  if p.slashes = 0 ∧ p.steps = [] then "."
  else String.ofList (List.replicate p.slashes '/') ++ "/".intercalate p.steps

/-- Whether a path only goes up, which leads to a directory in any case. -/
def isUpward (p : Path) : Bool :=
  p.steps.all (· == "..")

/-- The directory and the name of the file that steps lead to. Directories are given by the steps to
them, the last one first; there are no others than `home` and those above it. -/
def follow? (home here : List String) : List String → Option (List String × String)
  | [] => none
  | [file] => if file = ".." then none else some (here, file)
  | step :: rest =>
    if step = ".." then
      match here with
      | [] => none
      | _ :: above => follow? home above rest
    else if (step :: here).isSuffixOf home then follow? home (step :: here) rest
    else none

/-- The name of the file in the directory `home` that a path leads to from there. -/
def fileIn? (home : List String) (p : Path) : Option String :=
  match if p.slashes = 0 then follow? home home p.steps else none with
  | some (directory, file) => if directory = home then some file else none
  | none => none

/-- A path may leave a directory and come back to it. -/
example :
    (ofText "./x/../a").steps = ["x", "..", "a"] ∧ (ofText "no/./such//").text = "no/such" ∧
      (ofText "../b/a").fileIn? ["b", "c"] = some "a" ∧
      (ofText "../d/a").fileIn? ["b", "c"] = none := by
  decide +kernel

end Path
end LineMeasure
