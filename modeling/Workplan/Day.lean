/-!
# Days of the calendar range

A plan is laid out on a fixed, finite range of days. A day is its position in that range,
so that counting days is arithmetic on positions; the civil name of a day (year, month,
day of month) is in `Workplan.Day.Civil`.

## Main definitions

* `Day`: a position in the range, with `Day.first` and `Day.last` at its ends
* `Day.weekday`: Monday is `0` and Sunday is `6`
* `Day.upTo`: the days of a half-open stretch, in order
-/

namespace Workplan

/-- The number of days in the range, from 1 January of the year -262143 to 31 December of
the year 262142. -/
abbrev dayCount : Nat := 191491529

/-- A day of the range, by the number of days before it. -/
structure Day where
  index : Nat
  index_lt : index < dayCount
  deriving DecidableEq

/-- A day of the week, counted from Monday. -/
abbrev Weekday := Fin 7

/-- The weekday of the day with `i` days before it; the range opens on a Thursday. -/
def Weekday.ofIndex (i : Nat) : Weekday := ⟨(i + 3) % 7, Nat.mod_lt _ (by decide)⟩

namespace Day

/-- The first day of the range. -/
def first : Day := ⟨0, by decide⟩

/-- The last day of the range. -/
def last : Day := ⟨dayCount - 1, by decide⟩

@[ext] theorem ext {a b : Day} (h : a.index = b.index) : a = b := by
  cases a; cases b; simp_all

/-! ## Order

Days are ordered as they follow each other. -/

instance : LE Day := ⟨fun a b => a.index ≤ b.index⟩

instance : LT Day := ⟨fun a b => a.index < b.index⟩

instance : DecidableLE Day := fun a b => inferInstanceAs (Decidable (a.index ≤ b.index))

instance : DecidableLT Day := fun a b => inferInstanceAs (Decidable (a.index < b.index))

instance : Ord Day := ⟨fun a b => compare a.index b.index⟩

instance : Min Day := minOfLe

instance : Max Day := maxOfLe

theorem le_def {a b : Day} : a ≤ b ↔ a.index ≤ b.index := Iff.rfl

theorem lt_def {a b : Day} : a < b ↔ a.index < b.index := Iff.rfl

/-! ## Positions and weekdays -/

/-- The weekday of a day. -/
def weekday (d : Day) : Weekday := Weekday.ofIndex d.index

/-- The day with `i` days before it, if the range reaches that far. -/
def ofIndex? (i : Nat) : Option Day := if h : i < dayCount then some ⟨i, h⟩ else none

/-- The days from `start` on whose position is below `stop`, in order. -/
def upTo (start : Day) (stop : Nat) : List Day :=
  (List.range' start.index (stop - start.index)).filterMap ofIndex?

end Day

end Workplan
