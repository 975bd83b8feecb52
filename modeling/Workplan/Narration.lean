import Workplan.Leveling
import Workplan.Text.Lines
import Workplan.Text.Optional

/-!
# Narration

What can be told about the work, as events in the order in which they come up. Each event has
a level of detail; of those told at some verbosity, a text is written for each and ended as a
line. A name with line ends in it makes several lines of one text.

## Main definitions

* `Event`, `Event.level`, `Event.text`
* `isTold`, `narrate`: which events are told, and the lines of their texts
* `Plan.events`, `Plan.shiftEvents`, `Workload.events`: the events of a schedule, of a shift by
  hand and of leveling
* `scheduleEvents`, `shiftEvents`, `levelEvents`: the same from the project on
-/

namespace Workplan

/-- Something worth telling. -/
inductive Event where
  /-- The dependencies are in order. -/
  | ordered (tasks dependencies : Nat)
  /-- A task is not planned for want of a duration. -/
  | noDuration (id : String)
  /-- A predecessor bounds the start of a task. -/
  | bound (predecessor successor : String) (relation : Relation) (start : Day)
  /-- A task is not planned for want of anything to plan it from. -/
  | noAnchor (id : String)
  /-- A task is critical. -/
  | critical (id : String) (start finish : Option Day)
  /-- The project is planned. -/
  | planned (finish : Day)
  /-- A task is shifted by hand. -/
  | shifted (record : ShiftRecord)
  /-- A leveling run begins. -/
  | levelingBegins (overloads maxMoves : Nat)
  /-- An overload has no movable task. -/
  | immovable (overload : Overload)
  /-- A leveling run moves a task because of an overload. -/
  | moved (record : ShiftRecord) (overload : Overload)
  /-- A leveling run is called off. -/
  | calledOff (iterations : Nat)
  /-- A leveling run ends. -/
  | levelingEnds (outcome : Outcome) (before after : Nat)

namespace Event

/-- The level of detail of an event: 1 for what changes, 2 for what is passed over, 3 for
single steps of the planning. -/
def level : Event → Nat
  | ordered .. | critical .. | planned .. | shifted .. | levelingBegins .. | moved ..
  | calledOff .. | levelingEnds .. => 1
  | noDuration .. | noAnchor .. | immovable .. => 2
  | bound .. => 3

/-- What is written for an event, up to the end of its last line. -/
def text : Event → String
  | ordered tasks dependencies =>
    "Dependency graph: " ++ toString tasks ++ " tasks, " ++ toString dependencies
      ++ " dependencies"
  | noDuration id => "  Skip " ++ id ++ ": no duration"
  | bound predecessor successor relation start =>
    "    " ++ predecessor ++ " -> " ++ successor ++ " (" ++ relation.kindName ++ "("
      ++ toString relation.lag ++ ")): start >= " ++ start.render
  | noAnchor id => "  Skip " ++ id ++ ": nothing to anchor on"
  | critical id start finish =>
    "  Critical: " ++ id ++ " " ++ dayText start ++ ".." ++ dayText finish
  | planned finish => "Project finish: " ++ finish.render
  | shifted record =>
    "Manual shift " ++ record.taskId ++ " by " ++ toString record.days ++ ": "
      ++ dayText record.oldStart ++ " -> " ++ dayText record.newStart
  | levelingBegins overloads maxMoves =>
    "Auto-leveling: " ++ toString overloads ++ " conflicts, max " ++ toString maxMoves
      ++ " iterations"
  | immovable overload =>
    "  No movable task for " ++ overload.resourceId ++ " on " ++ overload.day.render
  | moved record overload =>
    "  Shift " ++ record.taskId ++ " by " ++ toString record.days ++ ": "
      ++ dayText record.oldStart ++ " -> " ++ dayText record.newStart ++ " ("
      ++ overload.resourceName ++ " on " ++ overload.day.render ++ ")"
  | calledOff iterations =>
    "Auto-leveling cancelled after " ++ toString iterations ++ " iterations"
  | levelingEnds outcome before after =>
    "Auto-leveling finished: " ++ outcome.name ++ ", " ++ toString before ++ " -> "
      ++ toString after ++ " conflicts"

end Event

/-- Is an event of some level told at a verbosity? Level 0 is never told. -/
def isTold (verbosity level : Nat) : Bool := 0 < level && level ≤ verbosity

/-- The lines of the texts of the events told at a verbosity. -/
def narrate (verbosity : Nat) (events : List Event) : List String :=
  (events.filter fun event => isTold verbosity event.level).flatMap
    fun event => lines (event.text ++ "\n")

/-! ## Events of a plan -/

namespace Plan

variable {n : Nat} (p : Plan n)

/-- The network is in order. -/
def orderedEvent : Event := .ordered n p.network.links.length

/-- How a task came by its early span, or why it has none. -/
def taskEvents (early : Vector (Option Span) n) (i : Fin n) : List Event :=
  let t := p.task i
  if t.duration.isNone then [.noDuration t.id]
  else
    let bounds := (p.network.predecessors i).filterMap fun (j, relation) =>
      (early.get j).map fun span =>
        .bound (p.task j).id t.id relation (relation.earliestStart p.calendar span t.days)
    bounds ++ if (early.get i).isNone then [.noAnchor t.id] else []

/-- The events of making a schedule. -/
def events (shifts : Shifts n) : List Event :=
  if n = 0 then []
  else
    let early := p.early shifts
    p.network.order.flatMap (p.taskEvents early) ++
      match lastFinish? early with
      | none => []
      | some finish =>
        ((p.timings early finish).filter (·.isCritical)).map
          (fun t => .critical t.taskId t.earliestStart t.earliestFinish) ++ [.planned finish]

/-- The events of a shift by hand, as far as it comes. -/
def shiftEvents (id : String) (days : Int) (reason : String) : List Event :=
  match p.acceptShift id days with
  | .error _ => []
  | .ok i =>
    p.events (Shifts.none n) ++
      match p.shiftBase id with
      | .error _ => []
      | .ok _ =>
        p.events ((Shifts.none n).add i days) ++
          match p.shiftTask id days reason with
          | .error _ => []
          | .ok (_, record) => [.shifted record]

end Plan

/-! ## Events of a leveling run -/

namespace Workload

variable {n : Nat} (w : Workload n)

/-- The overloads of a stage that are passed over because they have no movable task. -/
def immovableEvents (stage : Stage n) : List Event :=
  (stage.worstFirst.takeWhile fun overload =>
    (w.cheapest? stage.schedule overload).isNone).map .immovable

/-- The events of a move. -/
def moveEvents (move : Move n) : List Event :=
  w.immovableEvents move.source ++ w.plan.events move.target.shifts
    ++ [.moved move.record move.overload]

/-- The events of a leveling run, from its moves to its end. -/
def runEvents (run : Run n) : List Event :=
  run.moves.flatMap w.moveEvents
    ++ (match run.outcome with
        | .resolved | .exhausted => []
        | .noCandidate => w.immovableEvents run.final
        | .cancelled => [.calledOff run.iterations])
    ++ [.levelingEnds run.outcome run.start.overloads.length run.final.overloads.length]

/-- The events of leveling, as far as it comes; if it fails it does so before its first
move. -/
def events (cancelled : Bool) (maxMoves : Nat) : List Event :=
  w.plan.events (Shifts.none n) ++
    match w.level cancelled maxMoves with
    | .error _ => []
    | .ok run => .levelingBegins run.start.overloads.length maxMoves :: w.runEvents run

end Workload

/-! ## Events of a project -/

section Project

variable {n : Nat} (calendar : Calendar) (tasks : Vector Task n) (dependencies : List Dependency)

/-- The events of making the plan of a project and of some work on it. -/
def planEvents (settings : Settings) (work : Plan n → List Event) : List Event :=
  match Plan.ofProject calendar tasks dependencies settings with
  | .error _ => []
  | .ok p => p.orderedEvent :: work p

/-- The events of scheduling a project. -/
def scheduleEvents (settings : Settings) : List Event :=
  planEvents calendar tasks dependencies settings (·.events (Shifts.none n))

/-- The events of a shift by hand in a project. -/
def shiftEvents (settings : Settings) (id : String) (days : Int) (reason : String) :
    List Event :=
  planEvents calendar tasks dependencies settings (·.shiftEvents id days reason)

/-- The events of leveling a project. Nothing is told if the threshold is refused. -/
def levelEvents (resources : List Resource) (assignments : List Assignment)
    (settings : LevelingSettings) (cancelled : Bool) : List Event :=
  match Workload.ofProject calendar tasks dependencies resources assignments settings with
  | .error _ => []
  | .ok w => w.plan.orderedEvent :: w.events cancelled settings.maxMoves

end Project

end Workplan
