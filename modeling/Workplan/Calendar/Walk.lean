import Workplan.Calendar.Count

/-!
# Moving by working days

Every move goes through the numbering of the working days: to move by `k` is to add `k` to
a number. A move that leaves the range ends on its first or last day.

## Main definitions

* `Calendar.dayAt`: the working day with a number, or the end of the range on its side
* `Calendar.onOrAfter`, `after`, `onOrBefore`, `before`: the nearest working day
* `Calendar.offset`: the working day `k` places from the first one on or after a day
* `Calendar.advance`: the day on which a count of working days is complete
* `Calendar.daysIn`, `countIn`, `hoursIn`: the working days of a closed interval
-/

namespace Workplan.Calendar

variable (c : Calendar)

/-- The number of working days before a day. -/
def rank (d : Day) : Nat := c.workingBefore d.index

/-- The working day with number `k`, counted from 0. The first day of the range stands in
for those before it and the last day for those behind it. -/
def dayAt (k : Int) : Day := if k < 0 then Day.first else (c.nth? k.toNat).getD Day.last

/-! ## The nearest working day -/

/-- The first working day on or after a day. -/
def onOrAfter (d : Day) : Day := c.dayAt (c.rank d)

/-- The first working day after a day. -/
def after (d : Day) : Day := c.dayAt (c.workingBefore (d.index + 1))

/-- The last working day on or before a day. -/
def onOrBefore (d : Day) : Day := c.dayAt (c.workingBefore (d.index + 1) - 1)

/-- The last working day before a day. -/
def before (d : Day) : Day := c.dayAt (c.rank d - 1)

/-! ## Moving by a count -/

/-- The working day `k` places behind the first one on or after `d`; before it if `k` is
negative. -/
def offset (d : Day) (k : Int) : Day := c.dayAt (c.rank d + k)

/-- The day on which `n` working days from `d` on are complete, the first of them being the
first working day on or after `d`. A negative `n` counts back from that day, which is then
not counted; no days at all leave `d` as it is, worked or not. -/
def advance (d : Day) (n : Int) : Day :=
  if n = 0 then d else if 0 < n then c.offset d (n - 1) else c.offset d n

@[simp] theorem advance_zero (d : Day) : c.advance d 0 = d := rfl

/-! ## Closed intervals

The last day of the range closes it and is itself never counted. -/

/-- The working days from `start` to `finish`, in order. -/
def daysIn (start finish : Day) : List Day :=
  (start.upTo (min (finish.index + 1) Day.last.index)).filter c.isWorking

/-- The number of working days from `start` to `finish`. -/
def countIn (start finish : Day) : Nat :=
  c.workingBefore (min (finish.index + 1) Day.last.index) - c.rank start

/-- The working hours from `start` to `finish`. -/
def hoursIn (start finish : Day) : Float := Float.ofNat (c.countIn start finish) * c.hoursPerDay

end Workplan.Calendar
