import Workplan.Network.Link
import Workplan.Ranking
import Workplan.Table

/-!
# Releasing tasks in order

Tasks are released one by one. A task is ready once every link into it comes from a released
task; of the ready tasks the one with the least priority number goes first, then the one
with the least name, then the one with the least id. Links count one by one, so that several
links between the same two tasks do no harm.

## Main definitions

* `Release`: open links of each task, the ready tasks in order, the released ones
* `Release.step`: releases the first ready task
* `Release.after`: the state after a number of steps
-/

namespace Workplan

/-- Is a task released before another when both are ready? -/
def Task.goesBefore (a b : Task) : Bool :=
  (((compare a.priority b.priority).then (compare a.name b.name)).then
    (compare a.id b.id)).isLT

/-- How far the release of `n` tasks has come. -/
structure Release (n : Nat) where
  /-- For each task the number of links into it from tasks that are not released. -/
  pending : Vector Nat n
  /-- The tasks that are ready and not released, first to go first. -/
  ready : List (Fin n)
  /-- The released tasks, last one first. -/
  released : List (Fin n)

namespace Release

variable {n : Nat} (tasks : Vector Task n) (links : List (Link n))

/-- Adds a task to the ready ones. -/
def enqueue (i : Fin n) (ready : List (Fin n)) : List (Fin n) :=
  insertWhere (fun i j => (tasks.get i).goesBefore (tasks.get j)) i ready

/-- Nothing is released; ready are the tasks without a link into them. -/
def initial : Release n :=
  let pending := Vector.ofFn fun i => (linksInto links i).length
  ⟨pending, ((List.finRange n).filter (pending.get · = 0)).foldr (enqueue tasks) [], []⟩

/-- Closes a link whose predecessor is released. -/
def close (state : Release n) (link : Link n) : Release n :=
  let left := state.pending.get link.successor - 1
  { state with
    pending := setAt state.pending link.successor left
    ready := if left = 0 then enqueue tasks link.successor state.ready else state.ready }

/-- Releases the first ready task, if there is one, and closes the links out of it. -/
def step (state : Release n) : Release n :=
  match state.ready with
  | [] => state
  | i :: rest =>
    (linksOutOf links i).foldl (close tasks)
      { state with ready := rest, released := i :: state.released }

/-- The state after a number of steps. -/
def after : Nat → Release n
  | 0 => initial tasks links
  | k + 1 => step tasks links (after k)

/-- The tasks in the order of their release. -/
def order (state : Release n) : List (Fin n) := state.released.reverse

/-- The tasks that still wait for another one. -/
def blocked (state : Release n) : List (Fin n) :=
  (List.finRange n).filter (state.pending.get · ≠ 0)

end Release

end Workplan
