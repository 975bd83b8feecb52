import Std.Data.TreeMap
import Workplan.Day
import Workplan.Ranking

/-!
# Schedules

The dates of each task of a project, by key. A planned project has its task ids for keys; a
schedule that is handed in may use others.

## Main definitions

* `Timing`: the dates, slack and lateness of one task
* `Schedule`, `Schedule.ofEntries`, `Schedule.get?`
* `Schedule.finish?`, `Schedule.criticalPath`
-/

namespace Workplan

/-- What a schedule says of one task. A task that cannot be planned has no dates. -/
structure Timing where
  taskId : String := ""
  taskName : String := ""
  earliestStart : Option Day := none
  earliestFinish : Option Day := none
  latestStart : Option Day := none
  latestFinish : Option Day := none
  /-- Working days by which the task can move without moving the end of the project. -/
  slack : Option Int := none
  isCritical : Bool := false
  deadline : Option Day := none
  /-- Working days past the deadline, if the earliest finish misses it. -/
  lateBy : Option Int := none
  deriving DecidableEq

namespace Timing

/-- Does the task have dates? -/
def isScheduled (t : Timing) : Bool := t.earliestStart.isSome && t.earliestFinish.isSome

/-- Is a task named before another on the critical path? Tasks go by earliest start, those
without one first, then by id. -/
def precedes (t u : Timing) : Bool :=
  ((compare t.earliestStart u.earliestStart).then (compare t.taskId u.taskId)).isLT

end Timing

/-- The ids of the critical tasks by earliest start, then by id. -/
def criticalIds (timings : List Timing) : List String :=
  (ranked Timing.precedes (timings.filter (·.isCritical))).map (·.taskId)

/-- The timings of a project, by key. -/
structure Schedule where
  timings : Std.TreeMap String Timing

namespace Schedule

/-- The schedule without tasks. -/
def empty : Schedule := ⟨∅⟩

/-- The schedule of a list of entries; a later entry replaces an earlier one with its key. -/
def ofEntries (entries : List (String × Timing)) : Schedule :=
  ⟨entries.foldl (fun timings entry => timings.insert entry.1 entry.2) ∅⟩

variable (s : Schedule)

/-- The timing with a key. -/
def get? (key : String) : Option Timing := s.timings[key]?

/-- The entries in the order of their keys. -/
def entries : List (String × Timing) := s.timings.toList

/-- The number of entries. -/
def size : Nat := s.timings.size

/-- Has the schedule no entries? -/
def isEmpty : Bool := s.timings.isEmpty

/-- The last earliest finish. -/
def finish? : Option Day := (s.entries.filterMap fun entry => entry.2.earliestFinish).max?

/-- The ids of the critical tasks, in the order in which they start. -/
def criticalPath : List String := criticalIds (s.entries.map (·.2))

end Schedule

end Workplan
