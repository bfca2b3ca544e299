/-!
# Lines

A form for texts speaks of one line, which may end in a line feed.
-/

namespace LineMeasure.Text

/-- Whether a text, or what stands before the line feed at its end, has a property. -/
def fitsLine (p : List Char → Bool) (s : String) : Bool :=
  p s.toList || (s.toList.getLast? == some '\n' && p s.toList.dropLast)

end LineMeasure.Text
