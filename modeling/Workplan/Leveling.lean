import Workplan.Shift

/-!
# Leveling

Overloads are removed one working day at a time: the worst overload that has a movable task
is taken, and the cheapest of its movable tasks is moved by a day. A task is movable if it
has a start, nothing depends on it and it has no progress.

## Main definitions

* `Workload`: a plan with the assignments of its tasks
* `Stage`: shifts, with the schedule and the overloads that come of them
* `Workload.cheapest?`, `Workload.choose?`: the task to move
* `Workload.level`, `levelProject`: a leveling run, with its moves and its outcome
-/

namespace Workplan

/-- A plan, the assignments of resources to its tasks, and the percentage that a resource may
carry on a day. -/
structure Workload (n : Nat) where
  plan : Plan n
  resources : List Resource
  assignments : List Assignment
  threshold : Float

/-- How a leveling run ends. -/
inductive Outcome where
  /-- No overload is left. -/
  | resolved
  /-- Overloads are left after as many moves as were allowed. -/
  | exhausted
  /-- Overloads are left, but none of them has a movable task. -/
  | noCandidate
  /-- The run was called off before its first move. -/
  | cancelled
  deriving DecidableEq

namespace Outcome

/-- The name of an outcome. -/
def name : Outcome → String
  | resolved => "Resolved"
  | exhausted => "IterationsExhausted"
  | noCandidate => "NoCandidate"
  | cancelled => "Cancelled"

end Outcome

/-- A point of a leveling run: the shifts so far and what comes of them. -/
structure Stage (n : Nat) where
  shifts : Shifts n
  schedule : Schedule
  overloads : List Overload

/-- A move of a task by one working day, from one stage to the next, because of an overload. -/
structure Move (n : Nat) where
  task : Fin n
  overload : Overload
  source : Stage n
  target : Stage n
  record : ShiftRecord

/-- A leveling run: where it starts, its moves, where it ends and why. -/
structure Run (n : Nat) where
  start : Stage n
  moves : List (Move n)
  final : Stage n
  /-- The number of iterations, counted as they are made. -/
  iterations : Nat
  outcome : Outcome

/-- A run that ends where it starts. -/
def Run.halt {n : Nat} (stage : Stage n) (outcome : Outcome) : Run n :=
  ⟨stage, [], stage, 0, outcome⟩

/-- A run with a move in front of it. -/
def Run.cons {n : Nat} (move : Move n) (rest : Run n) : Run n where
  start := move.source
  moves := move :: rest.moves
  final := rest.final
  iterations := rest.iterations + 1
  outcome := rest.outcome

/-- The working days of a move. -/
def Move.days : Int := 1

/-- Is an overload taken up before another one? The larger one is, then the one with more
tasks. -/
def Overload.isWorse (a b : Overload) : Bool :=
  ((comparePercent b.total a.total).then (compare b.shares.length a.shares.length)).isLT

/-- The overloads of a stage, worst first; equally bad ones stay in the order they are listed
in. -/
def Stage.worstFirst {n : Nat} (stage : Stage n) : List Overload :=
  ranked Overload.isWorse stage.overloads

namespace Workload

variable {n : Nat}

/-- The workload of a plan; a threshold that is not a positive finite number is refused. -/
def ofPlan (plan : Plan n) (resources : List Resource) (assignments : List Assignment)
    (settings : LevelingSettings) : Except Error (Workload n) := do
  checkThreshold settings.threshold
  return ⟨plan, resources, assignments, settings.threshold⟩

variable (w : Workload n)

/-- The overloads of a schedule of the plan. -/
def overloads (schedule : Schedule) : Except Error (List Overload) :=
  Workplan.overloads w.plan.calendar schedule w.resources w.assignments w.threshold

/-- The stage that some shifts lead to. -/
def stage (shifts : Shifts n) : Except Error (Stage n) := do
  let schedule ← w.plan.schedule shifts
  let overloads ← w.overloads schedule
  return ⟨shifts, schedule, overloads⟩

/-! ## The task to move -/

/-- The start of a movable task. -/
def movableStart? (schedule : Schedule) (i : Fin n) : Option Day :=
  if w.plan.network.adjacency.hasSuccessors i || (w.plan.task i).hasProgress then none
  else (schedule.get? (w.plan.task i).id).bind (·.earliestStart)

/-- Is a movable task cheaper to move than another one, both given with their starts? The one
with less progress is, then the less important one, then the one that starts earlier, then
the one with the lesser id. -/
def isCheaper (a b : Fin n × Day) : Bool :=
  let t := w.plan.task a.1
  let u := w.plan.task b.1
  ((((comparePercent t.progress u.progress).then (compare u.priority t.priority)).then
    (compare a.2 b.2)).then (compare t.id u.id)).isLT

/-- The movable tasks of an overload with their starts, in the order of its shares. -/
def movable (schedule : Schedule) (overload : Overload) : List (Fin n × Day) :=
  overload.shares.filterMap fun share => do
    let i ← w.plan.network.position? share.taskId
    let start ← w.movableStart? schedule i
    return (i, start)

/-- The movable task of an overload that is cheapest to move. -/
def cheapest? (schedule : Schedule) (overload : Overload) : Option (Fin n) :=
  (leader? w.isCheaper (w.movable schedule overload)).map (·.1)

/-- The worst overload with a movable task, and the cheapest of its tasks. -/
def choose? (stage : Stage n) : Option (Overload × Fin n) :=
  stage.worstFirst.findSome? fun overload =>
    (w.cheapest? stage.schedule overload).map fun i => (overload, i)

/-! ## The run -/

/-- The move of a task, with its record. -/
def move (i : Fin n) (overload : Overload) (source target : Stage n) : Move n where
  task := i
  overload := overload
  source := source
  target := target
  record := .between (w.plan.task i) Move.days source.schedule target.schedule (some overload)
    ("Auto-leveling: resolved " ++ tenthsText overload.total ++ "% load on "
      ++ overload.day.render)

/-- Levels from a stage on with a number of moves left. -/
def levelFrom (cancelled : Bool) : Nat → Stage n → Except Error (Run n)
  | 0, stage => .ok (.halt stage (if stage.overloads.isEmpty then .resolved else .exhausted))
  | budget + 1, stage =>
    if stage.overloads.isEmpty then .ok (.halt stage .resolved)
    else if cancelled then .ok (.halt stage .cancelled)
    else
      match w.choose? stage with
      | none => .ok (.halt stage .noCandidate)
      | some (overload, i) => do
        let next ← w.stage (stage.shifts.add i Move.days)
        let rest ← levelFrom cancelled budget next
        return .cons (w.move i overload stage next) rest

/-- A leveling run of at most `maxMoves` moves, from the plan without shifts. -/
def level (cancelled : Bool) (maxMoves : Nat) : Except Error (Run n) := do
  w.levelFrom cancelled maxMoves (← w.stage (Shifts.none n))

/-- The workload of a project: first the threshold is checked, then the dependencies. -/
def ofProject (calendar : Calendar) (tasks : Vector Task n) (dependencies : List Dependency)
    (resources : List Resource) (assignments : List Assignment) (settings : LevelingSettings) :
    Except Error (Workload n) := do
  checkThreshold settings.threshold
  let plan ← Plan.ofProject calendar tasks dependencies settings.toSettings
  ofPlan plan resources assignments settings

end Workload

/-- A leveling run on a project; with `cancelled` it is called off before its first move. -/
def levelProject {n : Nat} (calendar : Calendar) (tasks : Vector Task n)
    (dependencies : List Dependency) (resources : List Resource) (assignments : List Assignment)
    (settings : LevelingSettings) (cancelled : Bool) : Except Error (Run n) := do
  (← Workload.ofProject calendar tasks dependencies resources assignments settings).level
    cancelled settings.maxMoves

end Workplan
