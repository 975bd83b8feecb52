import Workplan.Day.Civil

/-!
# Optional values in text

The written form of a value that may be missing.
-/

namespace Workplan

/-- The text of a value that may be missing. -/
def optionText {α : Type} (text : α → String) : Option α → String
  | none => "None"
  | some a => "Some(" ++ text a ++ ")"

/-- The text of a day that may be missing. -/
def dayText (day : Option Day) : String := optionText Day.render day

end Workplan
