import Workplan.Overload
import Workplan.Plan.Schedule

/-!
# Shifts

A shift moves one task by working days and leaves the project as it is: the schedule is made
anew with the shift put in. A shift by hand starts from the schedule without shifts.

## Main definitions

* `ShiftRecord`: what is noted of a shift
* `Plan.acceptShift`: whether a shift by hand is allowed
* `Plan.shiftTask`, `shiftInProject`: the schedule after a shift by hand, with its record
-/

namespace Workplan

/-- What is noted of the shift of a task. -/
structure ShiftRecord where
  taskId : String
  taskName : String
  /-- The overload that the shift answers; a shift by hand answers none. -/
  cause : Option Overload
  /-- Working days; a negative number moves the task ahead. -/
  days : Int
  oldStart : Option Day
  oldFinish : Option Day
  newStart : Option Day
  newFinish : Option Day
  reason : String

namespace ShiftRecord

/-- The record of a shift from one schedule to another. -/
def between (t : Task) (days : Int) (old new : Schedule) (cause : Option Overload)
    (reason : String) : ShiftRecord where
  taskId := t.id
  taskName := t.name
  cause := cause
  days := days
  oldStart := (old.get? t.id).bind (·.earliestStart)
  oldFinish := (old.get? t.id).bind (·.earliestFinish)
  newStart := (new.get? t.id).bind (·.earliestStart)
  newFinish := (new.get? t.id).bind (·.earliestFinish)
  reason := reason

end ShiftRecord

namespace Shifts

variable {n : Nat}

/-- Shifts with some working days added to those of one task. -/
def add (shifts : Shifts n) (i : Fin n) (days : Int) : Shifts n :=
  setAt shifts i (shifts.get i + days)

end Shifts

namespace Plan

variable {n : Nat} (p : Plan n)

/-- The position of a task that may be shifted by hand. Refused are, in this order, an unknown
task, a shift by no days, and a task with a recorded start or end. -/
def acceptShift (id : String) (days : Int) : Except Error (Fin n) :=
  match p.network.position? id with
  | none => .error (.unknownTask id)
  | some i =>
    if days = 0 then .error (.emptyShift id)
    else
      match (p.task i).began <|> (p.task i).ended with
      | some since => .error (.shiftOfRecorded id since)
      | none => .ok i

/-- The schedule that a shift of a task starts from; the task has a start in it. -/
def shiftBase (id : String) : Except Error Schedule := do
  let base ← p.baseline
  if ((base.get? id).bind (·.earliestStart)).isNone then throw (.unschedulable id)
  return base

/-- The reason noted for a shift by hand when none is given. -/
def defaultReason : String := "Manual shift"

/-- Shifts a task by hand. -/
def shiftTask (id : String) (days : Int) (reason : String) :
    Except Error (Schedule × ShiftRecord) := do
  let i ← p.acceptShift id days
  let base ← p.shiftBase id
  let shifted ← p.schedule ((Shifts.none n).add i days)
  let reason := if reason = "" then defaultReason else reason
  return (shifted, .between (p.task i) days base shifted none reason)

end Plan

/-- Shifts a task of a project by hand. -/
def shiftInProject {n : Nat} (calendar : Calendar) (tasks : Vector Task n)
    (dependencies : List Dependency) (settings : Settings) (id : String) (days : Int)
    (reason : String) : Except Error (Schedule × ShiftRecord) := do
  (← Plan.ofProject calendar tasks dependencies settings).shiftTask id days reason

end Workplan
