/-!
# Sorted sets of strings

Lists in code point order without repetitions.
-/

namespace AttrsUpgrade.Text

/-- Puts a string at its place, unless it is there already. -/
def insertSorted (s : String) : List String → List String
  | [] => [s]
  | t :: ts => if s = t then t :: ts else if s < t then s :: t :: ts else t :: insertSorted s ts

/-- The strings of a list in order, each once. -/
def sorted : List String → List String
  | [] => []
  | s :: ss => insertSorted s (sorted ss)

end AttrsUpgrade.Text
