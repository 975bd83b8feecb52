import Workplan.Calendar.Walk
import Workplan.Project
import Workplan.Schedule
import Workplan.Settings
import Workplan.Text.Lowercase

/-!
# Overloads

A resource is overloaded on a working day if the tasks planned on that day take more of it
than a threshold. Each assignment books its percentage on every working day of its task;
several assignments of one task to one resource make up one share.

## Main definitions

* `Slot`, `Ledger`: what is booked, by day and resource
* `Share`, `Overload`: the result
* `overloads`: the overloads of a schedule by day, name of the resource and total
-/

namespace Workplan

/-- The part of a task in an overload. -/
structure Share where
  taskId : String
  taskName : String
  percent : Float

/-- A resource that carries more than the threshold on a day, with the tasks it carries,
largest share first. -/
structure Overload where
  resourceId : String
  resourceName : String
  day : Day
  total : Float
  shares : List Share

/-- The percentage by which a total may exceed the threshold unnoticed. -/
def Overload.tolerance : Float := 1e-9

/-- Compares percentages; one that is not a number is no different from any other. -/
def comparePercent (a b : Float) : Ordering := if a < b then .lt else if b < a then .gt else .eq

/-! ## Booking -/

/-- A resource on a day. -/
structure Slot where
  day : Day
  resource : String
  deriving DecidableEq

instance : Ord Slot := ⟨compareLex (compareOn Slot.day) (compareOn Slot.resource)⟩

/-- The percentages booked, task by task in the order of their first booking. -/
abbrev Bookings := List (String × Float)

/-- Adds a percentage to what is booked for a task. -/
def Bookings.add (task : String) (percent : Float) : Bookings → Bookings
  | [] => [(task, percent)]
  | (t, booked) :: rest =>
    if t = task then (t, booked + percent) :: rest else (t, booked) :: add task percent rest

/-- The sum of all percentages, in the order of booking. -/
def Bookings.total (b : Bookings) : Float := b.foldl (fun sum booking => sum + booking.2) 0.0

/-- What is booked in each slot. -/
abbrev Ledger := Std.TreeMap Slot Bookings

/-- Books an assignment on a day. -/
def Ledger.book (ledger : Ledger) (a : Assignment) (day : Day) : Ledger :=
  ledger.alter ⟨day, a.resource⟩ fun bookings =>
    some (Bookings.add a.task a.percent (bookings.getD []))

/-- The days on which an assignment is booked: the working days of its task. A percentage
that is not positive is not booked, nor is a task without dates. -/
def bookingDays (calendar : Calendar) (schedule : Schedule) (a : Assignment) : List Day :=
  if a.percent ≤ 0.0 then []
  else
    match schedule.get? a.task with
    | some { earliestStart := some start, earliestFinish := some finish, .. } =>
      calendar.daysIn start finish
    | _ => []

/-- All bookings of a list of assignments, made in the order of the list. -/
def Ledger.ofAssignments (calendar : Calendar) (schedule : Schedule)
    (assignments : List Assignment) : Ledger :=
  assignments.foldl (fun ledger a => (bookingDays calendar schedule a).foldl (·.book a) ledger) ∅

/-! ## Overloads of a schedule -/

/-- Is a share listed before another one? The larger one is, then the one whose task comes
first by name, then the one whose task comes first by id. -/
def Share.precedes (a b : Share) : Bool :=
  (((comparePercent b.percent a.percent).then
    (compare (lowercase a.taskName) (lowercase b.taskName))).then
      (compare a.taskId b.taskId)).isLT

/-- Is an overload listed before another one? The earlier one is, then the one whose resource
comes first by name, then the larger one, then the one whose resource comes first by id. -/
def Overload.precedes (a b : Overload) : Bool :=
  ((((compare a.day b.day).then
    (compare (lowercase a.resourceName) (lowercase b.resourceName))).then
      (comparePercent b.total a.total)).then
        (compare a.resourceId b.resourceId)).isLT

/-- The name of a resource: that of the last record with its id. -/
def resourceName (resources : List Resource) (id : String) : String :=
  match resources.reverse.find? (·.id = id) with
  | some resource => resource.name
  | none => id

/-- The overload of a slot, if its total passes the threshold. -/
def overload? (schedule : Schedule) (resources : List Resource) (threshold : Float) (slot : Slot)
    (bookings : Bookings) : Option Overload :=
  if bookings.total ≤ threshold + Overload.tolerance then none
  else
    let shares := bookings.map fun (task, percent) =>
      { taskId := task
        taskName := ((schedule.get? task).map (·.taskName)).getD ""
        percent := percent : Share }
    some {
      resourceId := slot.resource
      resourceName := resourceName resources slot.resource
      day := slot.day
      total := bookings.total
      shares := ranked Share.precedes shares }

/-- The overloads among booked slots, in their order. -/
def overloadsAmong (schedule : Schedule) (resources : List Resource) (threshold : Float)
    (slots : List (Slot × Bookings)) : List Overload :=
  ranked Overload.precedes
    (slots.filterMap fun (slot, bookings) => overload? schedule resources threshold slot bookings)

/-- Refuses the first assignment of an unknown task or resource. -/
def checkAssignments (schedule : Schedule) (resources : List Resource)
    (assignments : List Assignment) : Except Error Unit :=
  assignments.forM fun a => do
    if (schedule.get? a.task).isNone then throw (.unknownTask a.task)
    if !resources.any (·.id = a.resource) then throw (.unknownResource a.resource)

/-- The overloads of a schedule. -/
def overloads (calendar : Calendar) (schedule : Schedule) (resources : List Resource)
    (assignments : List Assignment) (threshold : Float) : Except Error (List Overload) := do
  checkThreshold threshold
  checkAssignments schedule resources assignments
  return overloadsAmong schedule resources threshold
    (Ledger.ofAssignments calendar schedule assignments).toList

end Workplan
