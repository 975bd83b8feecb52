import Workplan.Day.Civil
import Workplan.Text.Decimal

/-!
# Errors

Why a calendar, a project or a request is refused. Each constructor is a cause; the wording
is in `Error.message` alone.
-/

namespace Workplan

/-- The causes for which a request is refused. -/
inductive Error where
  /-- A weekday number beyond Sunday's, which is 6. -/
  | weekdayOutOfRange (weekday : Nat)
  /-- A calendar without a working weekday. -/
  | noWorkingWeekday
  /-- Working hours that are not a positive finite number. -/
  | hoursNotPositive (hours : Float)
  /-- An overload threshold that is not a positive finite number. -/
  | thresholdNotPositive (threshold : Float)
  /-- A task id that an earlier task already has. -/
  | duplicateTask (id : String)
  /-- A dependency between two tasks that lies on a cycle. -/
  | circular (predecessor successor : String)
  /-- A reference to a task that is not there. -/
  | unknownTask (id : String)
  /-- A reference to a resource that is not there. -/
  | unknownResource (id : String)
  /-- A task that gets no dates although the request needs them. -/
  | unschedulable (id : String)
  /-- A shift of a task by no working days. -/
  | emptyShift (id : String)
  /-- A shift of a task with a recorded start or end. -/
  | shiftOfRecorded (id : String) (since : Day)

namespace Error

/-- The wording of an error. -/
def message : Error → String
  | weekdayOutOfRange weekday =>
    "Invalid configuration: weekday " ++ toString weekday ++ " is outside 0..=6"
  | noWorkingWeekday => "Invalid configuration: calendar has no working weekdays"
  | hoursNotPositive hours =>
    "Invalid configuration: hours_per_day must be positive, got " ++ shortestText hours
  | thresholdNotPositive threshold =>
    "Invalid configuration: threshold_percent must be greater than zero, got "
      ++ shortestText threshold
  | duplicateTask id => "Invalid configuration: duplicate task id: " ++ id
  | circular predecessor successor =>
    "Circular dependency detected: " ++ predecessor ++ " -> " ++ successor
  | unknownTask id => "Unknown task referenced: " ++ id
  | unknownResource id => "Unknown resource referenced: " ++ id
  | unschedulable id => "Task cannot be scheduled: " ++ id
  | emptyShift id =>
    "Invalid shift for task " ++ id ++ ": shift must be a non-zero number of working days"
  | shiftOfRecorded id since =>
    "Invalid shift for task " ++ id ++ ": task has recorded actual dates (since "
      ++ since.render ++ ")"

end Error

end Workplan
