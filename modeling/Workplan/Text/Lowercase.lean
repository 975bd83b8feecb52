import Workplan.Text.Character.Cased
import Workplan.Text.Character.Lower

/-!
# Lower-case text

Names are ranked without regard to case, by their lower-case forms. A capital sigma becomes
a final sigma at the end of a word and the ordinary small letter elsewhere.

## Main definitions

* `lowercase`: the lower-case form of a text
-/

namespace Workplan

namespace Character

/-- Does a character lie in one of the ranges? -/
def isIn (ranges : Array (Nat × Nat)) (c : Char) : Bool :=
  ranges.any fun (first, last) => first ≤ c.toNat && c.toNat ≤ last

/-- The lower-case form of a character by itself. -/
def lower (c : Char) : List Char :=
  if c.toNat < 128 then [c.toLower]
  else if c = '\u0130' then ['i', '\u0307']
  else
    let run? := lowerRuns.find? fun run =>
      run.first ≤ c.toNat && c.toNat ≤ run.last && (c.toNat - run.first) % run.stride == 0
    match run? with
    | some run => [Char.ofNat (run.lower + (c.toNat - run.first))]
    | none => [c]

end Character

/-- Is the first character that counts for the case of its neighbours a cased one? -/
def startsCased (text : List Char) : Bool :=
  match text.dropWhile (Character.isIn Character.caseIgnorableRanges) with
  | [] => false
  | c :: _ => Character.isIn Character.casedRanges c

/-- The lower-case form of a text that follows the characters `before`, last one first. -/
def lowercaseAfter (before : List Char) : List Char → List Char
  | [] => []
  | c :: rest =>
    if c = '\u03a3' then
      (if startsCased before && !startsCased rest then '\u03c2' else '\u03c3')
        :: lowercaseAfter (c :: before) rest
    else Character.lower c ++ lowercaseAfter (c :: before) rest

/-- The lower-case form of a text. -/
def lowercase (text : String) : String := String.ofList (lowercaseAfter [] text.toList)

end Workplan
