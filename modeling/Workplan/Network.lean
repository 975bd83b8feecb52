import Workplan.Network.Adjacency
import Workplan.Network.Cycle
import Workplan.Network.Index
import Workplan.Network.Release

/-!
# Dependency networks

A project's tasks with its dependencies resolved to positions and an order in which every
predecessor comes before its successors. Such an order exists exactly if no task waits for
itself around a cycle.

The tasks next to each task stand in tables, so that a pass along the network finds them without
a search of the links.

## Main definitions

* `Network`: tasks, links and order, with the tables made of them
* `Network.ofProject`: the network of a project, or the reason why there is none
* `Network.incoming`, `Network.outgoing`: the links of a task, in the order given
* `Network.predecessors`, `Network.successors`: the tasks next to a task
* `Network.position?`, `Network.idAt?`: from ids to positions and back
-/

namespace Workplan

/-- Tasks, the links between them, and an order along the links. -/
structure Network (n : Nat) where
  tasks : Vector Task n
  /-- The positions of the tasks by id. -/
  index : TaskIndex n
  links : List (Link n)
  /-- The tasks next to each task. -/
  adjacency : Adjacency n := .ofLinks links
  adjacency_eq : adjacency = .ofLinks links := by rfl
  order : List (Fin n)

namespace Network

variable {n : Nat}

/-- The network of a project. Refused are, in this order, a repeated id, the first reference
to an unknown task, and a cycle. -/
def ofProject (tasks : Vector Task n) (dependencies : List Dependency) :
    Except Error (Network n) := do
  let index ← TaskIndex.ofTasks tasks
  let links ← dependencies.mapM index.resolve
  let releases := Release.after tasks links n
  if let some link := closingLink? links releases.blocked then
    throw (.circular (index.idOf link.predecessor) (index.idOf link.successor))
  return { tasks, index, links, order := releases.order }

variable (net : Network n)

/-- The links into a task. -/
def incoming (i : Fin n) : List (Link n) := linksInto net.links i

/-- The links out of a task. -/
def outgoing (i : Fin n) : List (Link n) := linksOutOf net.links i

/-- The tasks before a task, with its relations to them. -/
def predecessors (i : Fin n) : List (Fin n × Relation) := net.adjacency.predecessors.get i

/-- The tasks behind a task, with its relations to them. -/
def successors (i : Fin n) : List (Fin n × Relation) := net.adjacency.successors.get i

/-- The position of the task with an id. -/
def position? (id : String) : Option (Fin n) := net.index.position? id

/-- The id of the task at a position, if there is one. -/
def idAt? (k : Nat) : Option String := net.index.idAt? k

theorem predecessors_eq (i : Fin n) : net.predecessors i = (net.incoming i).map Link.back := by
  rw [predecessors, net.adjacency_eq]
  exact Adjacency.predecessors_ofLinks net.links i

theorem successors_eq (i : Fin n) : net.successors i = (net.outgoing i).map Link.ahead := by
  rw [successors, net.adjacency_eq]
  exact Adjacency.successors_ofLinks net.links i

theorem hasSuccessors_eq (i : Fin n) :
    net.adjacency.hasSuccessors i = !(net.outgoing i).isEmpty := by
  change (!(net.successors i).isEmpty) = _
  rw [successors_eq, List.isEmpty_map]

end Network

end Workplan
