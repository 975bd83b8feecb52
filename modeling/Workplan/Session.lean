import Workplan.Narration

/-!
# Sessions

Work on one project, request by request. A session keeps the schedule made last; a request
that is refused leaves it as it is. Every request starts from the plan without shifts.

## Main definitions

* `Session`, `Session.begin`, `beginEvents`
* `Request`, `Reply`: what can be asked for, and what is answered
* `Session.reply`, `Session.after`: the answer to a request, and the session behind it
-/

namespace Workplan

/-- A project that is worked on. -/
structure Session (n : Nat) where
  workload : Workload n
  settings : LevelingSettings
  /-- The schedule made last. -/
  current : Schedule

/-- What can be asked for in a session. -/
inductive Request where
  /-- The schedule without shifts. -/
  | schedule
  /-- The overloads of the schedule made last. -/
  | overloads
  /-- A shift of a task by hand. -/
  | shift (id : String) (days : Int) (reason : String)
  /-- A leveling run, which may be called off beforehand. -/
  | level (cancelled : Bool)

/-- The answer to a request. -/
inductive Reply (n : Nat) where
  | schedule (schedule : Schedule)
  | overloads (overloads : List Overload)
  | shift (schedule : Schedule) (record : ShiftRecord)
  | level (run : Run n)

/-- The schedule that an answer brings. -/
def Reply.schedule? {n : Nat} : Reply n → Option Schedule
  | .schedule s => some s
  | .overloads _ => none
  | .shift s _ => some s
  | .level run => some run.final.schedule

namespace Session

variable {n : Nat}

/-- A session on a project, without a schedule yet. The dependencies are checked before the
settings. -/
def begin (calendar : Calendar) (tasks : Vector Task n) (dependencies : List Dependency)
    (resources : List Resource) (assignments : List Assignment) (settings : LevelingSettings) :
    Except Error (Session n) := do
  let plan ← Plan.ofProject calendar tasks dependencies settings.toSettings
  let workload ← Workload.ofPlan plan resources assignments settings
  return ⟨workload, settings, .empty⟩

variable (s : Session n)

/-- The answer to a request. -/
def reply : Request → Except Error (Reply n)
  | .schedule => .schedule <$> s.workload.plan.baseline
  | .overloads => .overloads <$> s.workload.overloads s.current
  | .shift id days reason => do
    let (schedule, record) ← s.workload.plan.shiftTask id days reason
    return .shift schedule record
  | .level cancelled => .level <$> s.workload.level cancelled s.settings.maxMoves

/-- The session after an answer: a schedule in it becomes the current one. -/
def after (answer : Except Error (Reply n)) : Session n :=
  match answer with
  | .error _ => s
  | .ok reply => { s with current := reply.schedule?.getD s.current }

/-- The events of a request. -/
def events : Request → List Event
  | .schedule => s.workload.plan.events (Shifts.none n)
  | .overloads => []
  | .shift id days reason => s.workload.plan.shiftEvents id days reason
  | .level cancelled =>
    s.workload.events cancelled s.settings.maxMoves

end Session

/-- The events of beginning a session: whether the dependencies are in order is told even if
the settings are refused after that. -/
def beginEvents {n : Nat} (calendar : Calendar) (tasks : Vector Task n)
    (dependencies : List Dependency) (settings : LevelingSettings) : List Event :=
  planEvents calendar tasks dependencies settings.toSettings fun _ => []

end Workplan
