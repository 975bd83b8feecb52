import Workplan.Text.Lowercase
import Workplan.Text.Character.Printable

/-!
# Quoted text

Text between double quotes, with escapes for the quote, the backslash and whatever would not
be seen: a few control characters have names, all others are given by their code points.

## Main definitions

* `quoted`: a text in quotes
-/

namespace Workplan

namespace Character

/-- Is the character written as itself in quoted text? -/
def isPrintable (c : Char) : Bool :=
  !isIn unprintableRanges c && !isIn joiningRanges c

/-- A character as written in quoted text. -/
def escaped (c : Char) : List Char :=
  match c with
  | '"' => ['\\', '"']
  | '\\' => ['\\', '\\']
  | '\n' => ['\\', 'n']
  | '\t' => ['\\', 't']
  | '\r' => ['\\', 'r']
  | '\x00' => ['\\', '0']
  | c =>
    if isPrintable c then [c] else ['\\', 'u', '\x7b'] ++ Nat.toDigits 16 c.toNat ++ ['\x7d']

end Character

/-- A text in double quotes. -/
def quoted (text : String) : String :=
  String.ofList ('"' :: text.toList.flatMap Character.escaped ++ ['"'])

end Workplan
