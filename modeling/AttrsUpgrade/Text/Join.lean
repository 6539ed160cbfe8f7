/-!
# Joining strings
-/

namespace AttrsUpgrade

/-- All strings one after the other. -/
def joinAll : List String → String
  | [] => ""
  | s :: ss => s ++ joinAll ss

/-- Strings with a separator between them. -/
def joinWith (sep : String) : List String → String
  | [] => ""
  | [s] => s
  | s :: ss => s ++ sep ++ joinWith sep ss

end AttrsUpgrade
