/-!
# Lines of text

A line feed ends a line; a carriage return right before it belongs to the line end, any other
is a character of its line. What follows the last line feed is a line if it is not empty.

## Main definitions

* `lineChars`, `lines`: the lines of a text, without their ends
-/

namespace Workplan

/-- The lines of a sequence of characters, without their ends. -/
def lineChars : List Char → List (List Char)
  | [] => []
  | c :: rest =>
    if c = '\n' then [] :: lineChars rest
    else if c = '\r' ∧ rest.head? = some '\n' then lineChars rest
    else
      match lineChars rest with
      | [] => [[c]]
      | line :: later => (c :: line) :: later

/-- The lines of a text, without their ends. -/
def lines (text : String) : List String := (lineChars text.toList).map String.ofList

end Workplan
