import Workplan.Network.Link

/-!
# Closing a cycle

Once no more task can be released, each of those that are left waits for another one that is
left. Walking back along such links must come to a task for the second time, and the link
that does so lies on a cycle.

## Main definitions

* `closingLink?`: the first link on the walk back from the first blocked task that leads to
  a task already visited
-/

namespace Workplan

variable {n : Nat}

/-- The first link into a task from a blocked one. -/
def blockingLink? (links : List (Link n)) (blocked : List (Fin n)) (i : Fin n) :
    Option (Link n) :=
  (linksInto links i).find? fun link => blocked.contains link.predecessor

/-- Walks back from `current`, where `unvisited` are the blocked tasks not yet visited. -/
def closingLinkFrom? (links : List (Link n)) (blocked unvisited : List (Fin n))
    (current : Fin n) : Option (Link n) :=
  match blockingLink? links blocked current with
  | none => none
  | some link =>
    if _h : link.predecessor ∈ unvisited then
      closingLinkFrom? links blocked (unvisited.erase link.predecessor) link.predecessor
    else some link
termination_by unvisited.length
decreasing_by
  rw [List.length_erase_of_mem _h]
  exact Nat.sub_lt (List.length_pos_of_mem _h) Nat.one_pos

/-- The link that closes a cycle of blocked tasks; there is none if no task is blocked. -/
def closingLink? (links : List (Link n)) : List (Fin n) → Option (Link n)
  | [] => none
  | first :: rest => closingLinkFrom? links (first :: rest) rest first

end Workplan
