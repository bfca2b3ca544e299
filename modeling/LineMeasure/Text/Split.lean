/-!
# Splitting texts

A separator cuts a text into fields, one more than there are separators; fields may be empty.
-/

namespace LineMeasure.Text

/-- The fields of a text between separators. -/
def fields (separator : Char) : List Char → List (List Char)
  | [] => [[]]
  | c :: rest =>
    if c = separator then [] :: fields separator rest
    else
      match fields separator rest with
      | [] => [[c]]
      | field :: others => (c :: field) :: others

end LineMeasure.Text
