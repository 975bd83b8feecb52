import Workplan.Network.Link
import Workplan.Table

/-!
# Adjacency tables

The tasks next to each task, in one table for those before it and in another one for those
behind it. The links are entered one by one, each of them at both of its ends.

## Main definitions

* `Link.back`, `Link.ahead`: what a link says at one of its ends
* `Adjacency`: the predecessors and the successors of each task
* `Adjacency.ofLinks`: the tables of a list of links

## Main results

* `predecessors_ofLinks`, `successors_ofLinks`: the entries of a task come from its links, in
  their order
-/

namespace Workplan

variable {n : Nat}

namespace Link

/-- What the successor of a link is told: the predecessor and the relation to it. -/
def back (link : Link n) : Fin n × Relation := (link.predecessor, link.relation)

/-- What the predecessor of a link is told: the successor and the relation to it. -/
def ahead (link : Link n) : Fin n × Relation := (link.successor, link.relation)

end Link

/-- For each task the ones before it and the ones behind it, with the relations to them. -/
structure Adjacency (n : Nat) where
  predecessors : Vector (List (Fin n × Relation)) n
  successors : Vector (List (Fin n × Relation)) n

namespace Adjacency

/-- No task has another one next to it. -/
def empty : Adjacency n := ⟨Vector.replicate n [], Vector.replicate n []⟩

/-- Enters a link at both of its ends. -/
def enter (table : Adjacency n) (link : Link n) : Adjacency n where
  predecessors := pushAt table.predecessors link.successor link.back
  successors := pushAt table.successors link.predecessor link.ahead

/-- The tables of a list of links. -/
def ofLinks (links : List (Link n)) : Adjacency n := links.foldl enter empty

/-- Is there a task behind the one at a position? -/
def hasSuccessors (table : Adjacency n) (i : Fin n) : Bool := !(table.successors.get i).isEmpty

theorem get_predecessors_enter (table : Adjacency n) (link : Link n) (i : Fin n) :
    (table.enter link).predecessors.get i =
      table.predecessors.get i ++ (linksInto [link] i).map Link.back := by
  rw [enter, get_pushAt]
  by_cases h : link.successor = i <;> simp [linksInto, h]

theorem get_successors_enter (table : Adjacency n) (link : Link n) (i : Fin n) :
    (table.enter link).successors.get i =
      table.successors.get i ++ (linksOutOf [link] i).map Link.ahead := by
  rw [enter, get_pushAt]
  by_cases h : link.predecessor = i <;> simp [linksOutOf, h]

/-- Links that are entered stand behind what the tables had, in their order. This is said of any
tables, as those that the later links are entered in have grown by the earlier ones. -/
theorem foldl_enter (links : List (Link n)) (table : Adjacency n) (i : Fin n) :
    (links.foldl enter table).predecessors.get i =
        table.predecessors.get i ++ (linksInto links i).map Link.back ∧
      (links.foldl enter table).successors.get i =
        table.successors.get i ++ (linksOutOf links i).map Link.ahead := by
  induction links generalizing table with
  | nil => simp [linksInto, linksOutOf]
  | cons link links ih =>
    obtain ⟨hpred, hsucc⟩ := ih (table.enter link)
    rw [List.foldl_cons, hpred, hsucc, get_predecessors_enter, get_successors_enter]
    simp only [linksInto, linksOutOf, List.append_assoc, ← List.map_append, ← List.filter_append,
      List.singleton_append, and_self]

theorem predecessors_ofLinks (links : List (Link n)) (i : Fin n) :
    (ofLinks links).predecessors.get i = (linksInto links i).map Link.back := by
  rw [ofLinks, (foldl_enter links empty i).1]
  simp [empty, Vector.get]

theorem successors_ofLinks (links : List (Link n)) (i : Fin n) :
    (ofLinks links).successors.get i = (linksOutOf links i).map Link.ahead := by
  rw [ofLinks, (foldl_enter links empty i).2]
  simp [empty, Vector.get]

end Adjacency

end Workplan
