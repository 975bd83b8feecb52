import Workplan.Bisection
import Workplan.Day

/-!
# Civil dates

Names of days in the proleptic Gregorian calendar, which has a year 0. Reading accepts
`YYYY-MM-DD` with an optional sign and four or more digits of the year; writing gives a
year outside 0 to 9999 its sign.

## Main definitions

* `Civil`: year, month and day of the month
* `Day.civil`, `Day.ofCivil?`: the name of a day, and the day of a name
* `Day.render`, `Day.parse?`: the written form of a day
-/

namespace Workplan

/-- A date by year, month (1 to 12) and day of the month (from 1). -/
structure Civil where
  year : Int
  month : Nat
  day : Nat
  deriving DecidableEq

namespace Civil

/-- The year that opens the range of days. -/
def firstYear : Int := -262143

/-- The number of years in the range of days. -/
def yearCount : Nat := 524286

/-- Every fourth year is a leap year; of the full centuries only every fourth is. -/
def isLeap (year : Int) : Bool := year % 4 == 0 && (year % 100 != 0 || year % 400 == 0)

/-- The lengths of the months of a year, January first. -/
def monthLengths (year : Int) : List Nat :=
  [31, if isLeap year then 29 else 28, 31, 30, 31, 30, 31, 31, 30, 31, 30, 31]

/-- Leap years from the year 1 to `year`, less those from `year` to the year 0 when `year`
is not positive. -/
def leapYearsThrough (year : Int) : Int := year / 4 - year / 100 + year / 400

/-- The number of days before the 1 January that opens the range's year number `n`,
counted from 0. -/
def daysBeforeYear (n : Nat) : Nat :=
  365 * n + (leapYearsThrough (firstYear + n - 1) - leapYearsThrough (firstYear - 1)).toNat

/-- Splits a day of the year, counted from 0, into full months and a day of the month,
both counted from 0. -/
def splitMonths : List Nat → Nat → Nat × Nat
  | [], rest => (0, rest)
  | length :: lengths, rest =>
    if rest < length then (0, rest)
    else
      let (month, day) := splitMonths lengths (rest - length)
      (month + 1, day)

end Civil

namespace Day

/-- The civil date of a day. -/
def civil (d : Day) : Civil :=
  let n := bisect Civil.daysBeforeYear d.index 20 0
  let year := Civil.firstYear + n
  let (month, day) := Civil.splitMonths (Civil.monthLengths year)
    (d.index - Civil.daysBeforeYear n)
  ⟨year, month + 1, day + 1⟩

/-- The day with a civil date, if there is such a date in the range. -/
def ofCivil? (date : Civil) : Option Day := do
  guard (Civil.firstYear ≤ date.year && 1 ≤ date.month && 1 ≤ date.day)
  let n := (date.year - Civil.firstYear).toNat
  guard (n < Civil.yearCount)
  let lengths := Civil.monthLengths date.year
  let length ← lengths[date.month - 1]?
  guard (date.day ≤ length)
  let daysBefore := (lengths.take (date.month - 1)).foldl (· + ·) 0
  ofIndex? (Civil.daysBeforeYear n + daysBefore + (date.day - 1))

/-! ## Written form -/

/-- Decimal digits, with zeros in front up to `width`. -/
private def zeroPadded (width n : Nat) : String :=
  let digits := toString n
  String.ofList (List.replicate (width - digits.length) '0') ++ digits

/-- Year, month and day with hyphens between them; only a year outside 0 to 9999 has a
sign. -/
def render (d : Day) : String :=
  let date := d.civil
  let sign := if date.year < 0 then "-" else if 9999 < date.year then "+" else ""
  sign ++ zeroPadded 4 date.year.natAbs ++ "-" ++ zeroPadded 2 date.month ++ "-"
    ++ zeroPadded 2 date.day

/-- The number written by a non-empty run of decimal digits. -/
private def digits? (cs : List Char) : Option Nat :=
  if cs ≠ [] ∧ cs.all Char.isDigit then
    some (cs.foldl (fun n c => 10 * n + (c.toNat - '0'.toNat)) 0)
  else none

/-- Reads a date without the sign of its year. -/
private def parseUnsigned? (negative : Bool) (text : List Char) : Option Day :=
  let year := text.takeWhile (· ≠ '-')
  match text.dropWhile (· ≠ '-') with
  | ['-', m₁, m₂, '-', d₁, d₂] => do
    guard (4 ≤ year.length)
    let n ← digits? year
    let month ← digits? [m₁, m₂]
    let day ← digits? [d₁, d₂]
    ofCivil? ⟨if negative then -n else n, month, day⟩
  | _ => none

/-- Reads the written form of a day: a year of four or more digits with an optional sign,
then two digits each for month and day. -/
def parse? (text : String) : Option Day :=
  match text.toList with
  | '-' :: rest => parseUnsigned? true rest
  | '+' :: rest => parseUnsigned? false rest
  | rest => parseUnsigned? false rest

end Day

end Workplan
