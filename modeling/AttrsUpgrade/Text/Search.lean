/-!
# Finding text in text
-/

namespace AttrsUpgrade.Text

/-- Whether one list stands somewhere in another. -/
def occurs {α : Type} [BEq α] (part : List α) : List α → Bool
  | [] => part.isEmpty
  | c :: cs => part.isPrefixOf (c :: cs) || occurs part cs

/-- Whether a text holds another. -/
def holds (text part : String) : Bool := occurs part.toList text.toList

end AttrsUpgrade.Text
