import Workplan.Day

/-!
# Projects

The records a plan is made from: tasks, the dependencies between them, the resources that do
them and the assignments of resources to tasks.

## Main definitions

* `Task`, `Task.days`, `Task.hasProgress`
* `Endpoint`, `Relation`, `Dependency`: which end of one task waits for which end of another
* `Resource`, `Assignment`
-/

namespace Workplan

/-! ## Tasks -/

/-- The state of a task. -/
inductive Status where
  | notStarted | inProgress | done | blocked
  deriving DecidableEq

/-- The priority of a task that none is given for; a lower number is more important. -/
def Task.defaultPriority : Int := 50

/-- A task to be planned. -/
structure Task where
  id : String := ""
  name : String := ""
  /-- Where the task is planned from when no predecessor says so. -/
  anchor : Option Day := none
  /-- Working days of the task; a task without a duration is not planned. -/
  duration : Option Int := none
  /-- Percentage done. -/
  progress : Float := 0.0
  priority : Int := Task.defaultPriority
  deadline : Option Day := none
  /-- The recorded first day. -/
  began : Option Day := none
  /-- The recorded last day. -/
  ended : Option Day := none
  status : Status := .notStarted

instance : Inhabited Task := ⟨{}⟩

namespace Task

/-- The working days a task takes. A task of no days is a milestone. -/
def days (t : Task) : Nat := (t.duration.getD 0).toNat

/-- Has any progress been recorded? -/
def hasProgress (t : Task) : Bool :=
  t.began.isSome || t.ended.isSome || t.progress > 0.0 || t.status == .inProgress
    || t.status == .done

end Task

/-! ## Dependencies -/

/-- One of the two ends of a task. -/
inductive Endpoint where
  | start | finish
  deriving DecidableEq

namespace Endpoint

/-- The name of an end of a task. -/
def name : Endpoint → String
  | start => "Start"
  | finish => "Finish"

end Endpoint

/-- What a dependency demands: the `target` end of the successor lies at least `lag` working
days behind the `source` end of the predecessor. A negative lag is a lead. -/
structure Relation where
  source : Endpoint := .finish
  target : Endpoint := .start
  lag : Int := 0
  deriving DecidableEq

namespace Relation

/-- The name of the kind of a relation, from its two ends. -/
def kindName (r : Relation) : String := r.source.name ++ "To" ++ r.target.name

end Relation

/-- A relation between two tasks, by their ids. -/
structure Dependency where
  predecessor : String := ""
  successor : String := ""
  relation : Relation := {}
  deriving DecidableEq

/-! ## Resources -/

/-- Somebody or something that tasks are assigned to. -/
structure Resource where
  id : String := ""
  name : String := ""
  deriving DecidableEq

/-- The share of a resource's working day that a task takes, in percent. -/
structure Assignment where
  task : String := ""
  resource : String := ""
  percent : Float := 100.0

end Workplan
