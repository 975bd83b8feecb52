import Workplan.Plan
import Workplan.Schedule

/-!
# The schedule of a plan

Early and late dates of each task, with the slack between them. A plan without tasks has the
empty schedule; otherwise at least one task must get dates.

## Main definitions

* `Plan.timing`: what the schedule says of one task
* `Plan.schedule`: the schedule under some shifts, `Plan.baseline` the one without
* `Plan.ofProject`: the plan of a project
-/

namespace Workplan

namespace Plan

variable {n : Nat}

/-- The plan of a project, or the reason why its dependencies cannot be put in order. -/
def ofProject (calendar : Calendar) (tasks : Vector Task n) (dependencies : List Dependency)
    (settings : Settings) : Except Error (Plan n) := do
  let network ← Network.ofProject tasks dependencies
  return ⟨calendar, network, settings.projectStart⟩

variable (p : Plan n)

/-- The working days by which a start can move from its early to its late day. A late start
that does not trail the early one leaves no slack. -/
def slack (early late : Span) : Nat :=
  if late.start ≤ early.start then 0 else p.calendar.countIn early.start late.start - 1

/-- The working days from a missed deadline to the finish. -/
def lateBy? (deadline : Option Day) (finish : Option Day) : Option Nat := do
  let deadline ← deadline
  let finish ← finish
  guard (deadline < finish)
  return p.calendar.countIn deadline finish

/-- What the schedule says of a task with some early and late span. A task is critical if it
has no slack. -/
def timing (t : Task) (early late : Option Span) : Timing :=
  let slack := do return p.slack (← early) (← late)
  { taskId := t.id
    taskName := t.name
    earliestStart := early.map (·.start)
    earliestFinish := early.map (·.finish)
    latestStart := late.map (·.start)
    latestFinish := late.map (·.finish)
    slack := slack.map Int.ofNat
    isCritical := slack = some 0
    deadline := t.deadline
    lateBy := (p.lateBy? t.deadline (early.map (·.finish))).map Int.ofNat }

/-- The timings of the tasks, in the order of the tasks, given their early spans and the
last day of these. -/
def timings (early : Vector (Option Span) n) (finish : Day) : List Timing :=
  let late := p.late early finish
  (List.finRange n).map fun i => p.timing (p.task i) (early.get i) (late.get i)

/-- The least id of a task. -/
def leastId : String :=
  (ranked (· < ·) (p.network.tasks.toList.map (·.id))).head?.getD ""

/-- The schedule under some shifts. If there are tasks but none of them gets dates, the one
with the least id is named. -/
def schedule (shifts : Shifts n) : Except Error Schedule :=
  if n = 0 then .ok .empty
  else
    let early := p.early shifts
    match lastFinish? early with
    | none => .error (.unschedulable p.leastId)
    | some finish =>
      .ok (.ofEntries ((p.timings early finish).map fun timing => (timing.taskId, timing)))

/-- The schedule without shifts. -/
def baseline : Except Error Schedule := p.schedule (Shifts.none n)

end Plan

/-- The schedule of a project. -/
def scheduleProject {n : Nat} (calendar : Calendar) (tasks : Vector Task n)
    (dependencies : List Dependency) (settings : Settings) : Except Error Schedule := do
  (← Plan.ofProject calendar tasks dependencies settings).baseline

end Workplan
