import Std.Data.TreeMap
import Workplan.Error
import Workplan.Network.Link

/-!
# Task indices

Tasks are numbered in the order given, and an index leads from their ids to the numbers and back.
Its two tables are filled in one pass over the tasks, which stops at an id that an earlier task
has.

## Main definitions

* `TaskIndex`: the two tables
* `TaskIndex.ofTasks`: the index of some tasks, or the reason why there is none
* `TaskIndex.position?`, `TaskIndex.idAt?`: from ids to positions and back
* `TaskIndex.resolve`: a dependency with its ids replaced by positions
-/

namespace Workplan

variable {n : Nat}

/-- The position of a task that is referred to, as `find?` finds it. -/
def locateBy (find? : String → Option (Fin n)) (id : String) : Except Error (Fin n) :=
  match find? id with
  | some i => .ok i
  | none => .error (.unknownTask id)

/-- The link of a dependency, whose predecessor is looked for first. -/
def resolveBy (find? : String → Option (Fin n)) (d : Dependency) : Except Error (Link n) := do
  let predecessor ← locateBy find? d.predecessor
  let successor ← locateBy find? d.successor
  return ⟨predecessor, successor, d.relation⟩

/-- The positions of tasks by id, and their ids by position. -/
structure TaskIndex (n : Nat) where
  positions : Std.TreeMap String (Fin n)
  ids : Array String

namespace TaskIndex

/-- No task is entered. -/
def empty : TaskIndex n := ⟨∅, #[]⟩

/-- Enters a task behind the others. An id that one of them has is refused. -/
def enter (tasks : Vector Task n) (index : TaskIndex n) (i : Fin n) :
    Except Error (TaskIndex n) :=
  let id := (tasks.get i).id
  if index.positions.contains id then .error (.duplicateTask id)
  else .ok ⟨index.positions.insert id i, index.ids.push id⟩

/-- Enters the tasks one by one, in the order given. -/
def ofTasks (tasks : Vector Task n) : Except Error (TaskIndex n) :=
  (List.finRange n).foldlM (enter tasks) empty

variable (index : TaskIndex n)

/-- The position of the task with an id. -/
def position? (id : String) : Option (Fin n) := index.positions[id]?

/-- The id of the task at a position, if there is one. -/
def idAt? (k : Nat) : Option String := index.ids[k]?

/-- The id of the task at a position, for a message. -/
def idOf (i : Fin n) : String := (index.idAt? i).getD ""

/-- The link of a dependency. -/
def resolve (d : Dependency) : Except Error (Link n) := resolveBy index.position? d

end TaskIndex

end Workplan
