import Workplan.Error

/-!
# Working calendars

A calendar says which days are worked: those on one of its working weekdays that are not
holidays. It has at least one working weekday; weekdays and holidays are kept in ascending
order without repetition, so that calendars with the same days are equal.

## Main definitions

* `Calendar`, `Calendar.standard`: Monday to Friday, eight hours, no holidays
* `Calendar.ofParts`: a calendar from unordered parts, or the reason why there is none
* `Calendar.isWorking`: whether a day is worked
-/

namespace Workplan

/-- Working weekdays, hours of a working day and holidays of a project. -/
structure Calendar where
  weekdays : List Weekday
  hoursPerDay : Float
  holidays : List Day
  weekdays_ne_nil : weekdays ≠ []
  weekdays_ascending : weekdays.Pairwise (· < ·)
  holidays_ascending : holidays.Pairwise (· < ·)

/-- Puts a day into its place among ascending days, unless it is already there. -/
def insertDay (d : Day) : List Day → List Day
  | [] => [d]
  | e :: rest =>
    if d < e then d :: e :: rest
    else if d = e then e :: rest
    else e :: insertDay d rest

theorem mem_insertDay {d x : Day} {days : List Day} :
    x ∈ insertDay d days ↔ x = d ∨ x ∈ days := by
  induction days with
  | nil => simp [insertDay]
  | cons e rest ih =>
    rw [insertDay]
    split
    · simp
    · split
      · next h => simp [h]
      · simp only [List.mem_cons, ih]
        grind

theorem pairwise_insertDay (d : Day) {days : List Day} (h : days.Pairwise (· < ·)) :
    (insertDay d days).Pairwise (· < ·) := by
  induction days with
  | nil => simp [insertDay]
  | cons e rest ih =>
    rw [List.pairwise_cons] at h
    rw [insertDay]
    split
    · next hlt =>
      rw [List.pairwise_cons, List.pairwise_cons]
      refine ⟨fun x hx => ?_, h⟩
      rcases List.mem_cons.1 hx with rfl | hx
      · exact hlt
      · exact Nat.lt_trans hlt (h.1 x hx)
    · split
      · exact List.pairwise_cons.2 h
      · next hlt hne =>
        refine List.pairwise_cons.2 ⟨fun x hx => ?_, ih h.2⟩
        rcases mem_insertDay.1 hx with rfl | hx
        · have : e.index ≠ x.index := fun he => hne (Day.ext he.symm)
          simp only [Day.lt_def] at hlt ⊢
          omega
        · exact h.1 x hx

namespace Calendar

/-- Monday to Friday, eight hours a day, no holidays. -/
def standard : Calendar where
  weekdays := [0, 1, 2, 3, 4]
  hoursPerDay := 8.0
  holidays := []
  weekdays_ne_nil := by decide
  weekdays_ascending := by decide
  holidays_ascending := .nil

/-- Calendars are compared by what they say, hours as numbers. -/
instance : BEq Calendar where
  beq c c' := c.weekdays == c'.weekdays && c.hoursPerDay == c'.hoursPerDay
    && c.holidays == c'.holidays

/-- The numbered weekdays among Monday (0) to Sunday (6), ascending. -/
def weekdaysAmong (numbers : List Nat) : List Weekday :=
  (List.finRange 7).filter fun w => numbers.contains w.val

/-- A calendar from weekday numbers, hours and holidays in any order. The first number
beyond Sunday's is refused, then the lack of a working weekday, then hours that are not a
positive finite number. -/
def ofParts (weekdays : List Nat) (hoursPerDay : Float) (holidays : List Day) :
    Except Error Calendar :=
  match weekdays.find? (6 < ·) with
  | some weekday => .error (.weekdayOutOfRange weekday)
  | none =>
    if h : weekdaysAmong weekdays = [] then .error .noWorkingWeekday
    else if !hoursPerDay.isFinite || hoursPerDay ≤ 0.0 then
      .error (.hoursNotPositive hoursPerDay)
    else
      .ok {
        weekdays := weekdaysAmong weekdays
        hoursPerDay := hoursPerDay
        holidays := holidays.foldr insertDay []
        weekdays_ne_nil := h
        weekdays_ascending := (List.pairwise_lt_finRange 7).filter _
        holidays_ascending := by
          induction holidays with
          | nil => exact .nil
          | cons d rest ih => exact pairwise_insertDay d ih }

/-- Is the day with `i` days before it on a working weekday? -/
def isWorkweekdayAt (c : Calendar) (i : Nat) : Bool := c.weekdays.contains (Weekday.ofIndex i)

/-- Is the day worked? -/
def isWorking (c : Calendar) (d : Day) : Bool := c.isWorkweekdayAt d.index && !c.holidays.contains d

end Calendar

end Workplan
