import Workplan.Leveling
import Workplan.Text.Optional
import Workplan.Text.Quoted

/-!
# Descriptions

One line on each kind of record, naming the record and its main fields.
-/

namespace Workplan

namespace Calendar

/-- A calendar by its weekdays, its hours and the number of its holidays. -/
def description (c : Calendar) : String :=
  "WorkCalendar(working_weekdays=["
    ++ ", ".intercalate (c.weekdays.map fun w => toString w.val)
    ++ "], hours_per_day=" ++ shortestText c.hoursPerDay
    ++ ", holidays=" ++ toString c.holidays.length ++ ")"

end Calendar

namespace Task

/-- A task by its id, its name, its anchor and its duration. -/
def description (t : Task) : String :=
  "Task(id=" ++ quoted t.id ++ ", name=" ++ quoted t.name ++ ", start=" ++ dayText t.anchor
    ++ ", duration_days=" ++ optionText toString t.duration ++ ")"

end Task

namespace Dependency

/-- A dependency by its tasks and its relation. -/
def description (d : Dependency) : String :=
  "Dependency(" ++ quoted d.predecessor ++ " -> " ++ quoted d.successor ++ ", kind="
    ++ d.relation.kindName ++ ", lag_days=" ++ toString d.relation.lag ++ ")"

end Dependency

namespace Resource

/-- A resource by its id and its name. -/
def description (r : Resource) : String :=
  "Resource(id=" ++ quoted r.id ++ ", name=" ++ quoted r.name ++ ")"

end Resource

namespace Assignment

/-- An assignment by its task, its resource and its percentage. -/
def description (a : Assignment) : String :=
  "Assignment(task_id=" ++ quoted a.task ++ ", resource_id=" ++ quoted a.resource
    ++ ", allocation_percent=" ++ shortestText a.percent ++ ")"

end Assignment

namespace Settings

/-- Settings by the anchor of the project and the verbosity. -/
def description (s : Settings) : String :=
  "SchedulingConfig(project_start=" ++ dayText s.projectStart ++ ", verbosity="
    ++ toString s.verbosity ++ ")"

end Settings

namespace LevelingSettings

/-- Leveling settings by the threshold and the number of moves. -/
def description (s : LevelingSettings) : String :=
  "LevelingConfig(threshold_percent=" ++ shortestText s.threshold ++ ", max_iterations="
    ++ toString s.maxMoves ++ ")"

end LevelingSettings

namespace Timing

/-- A timing by its task, its early dates, its slack and whether it is critical. -/
def description (t : Timing) : String :=
  "CpmTaskInfo(task_id=" ++ quoted t.taskId ++ ", es=" ++ dayText t.earliestStart ++ ", ef="
    ++ dayText t.earliestFinish ++ ", float=" ++ optionText toString t.slack ++ ", critical="
    ++ toString t.isCritical ++ ")"

end Timing

namespace Share

/-- A share by its task and its percentage. -/
def description (s : Share) : String :=
  "ResourceConflictEntry(task_id=" ++ quoted s.taskId ++ ", allocation_percent="
    ++ shortestText s.percent ++ ")"

end Share

namespace Overload

/-- An overload by its resource, its day, its total and the number of its tasks. -/
def description (o : Overload) : String :=
  "ResourceConflict(resource=" ++ quoted o.resourceId ++ ", date=" ++ o.day.render ++ ", total="
    ++ tenthsText o.total ++ ", tasks=" ++ toString o.shares.length ++ ")"

end Overload

namespace ShiftRecord

/-- A shift by its task, its working days and the old and new start. -/
def description (r : ShiftRecord) : String :=
  "ResourceLevelingAction(task_id=" ++ quoted r.taskId ++ ", shift=" ++ toString r.days ++ ", "
    ++ dayText r.oldStart ++ " -> " ++ dayText r.newStart ++ ")"

end ShiftRecord

namespace Run

/-- A leveling run by its outcome, the overloads at its start and end, and its iterations. -/
def description {n : Nat} (run : Run n) : String :=
  "ResourceLevelingResult(outcome=" ++ run.outcome.name ++ ", before="
    ++ toString run.start.overloads.length ++ ", after=" ++ toString run.final.overloads.length
    ++ ", iterations=" ++ toString run.iterations ++ ")"

end Run

end Workplan
