import Workplan.Project

/-!
# Links

Dependencies between tasks that go by their positions. Several links may join the same two
tasks; lists of links keep the order in which the dependencies were given.

## Main definitions

* `Link`: a relation between the tasks at two positions
* `linksInto`, `linksOutOf`: the links of a task
-/

namespace Workplan

/-- A relation between the tasks at two positions out of `n`. -/
structure Link (n : Nat) where
  predecessor : Fin n
  successor : Fin n
  relation : Relation
  deriving DecidableEq

variable {n : Nat}

/-- The links into a task, from its predecessors. -/
def linksInto (links : List (Link n)) (i : Fin n) : List (Link n) :=
  links.filter (·.successor = i)

/-- The links out of a task, to its successors. -/
def linksOutOf (links : List (Link n)) (i : Fin n) : List (Link n) :=
  links.filter (·.predecessor = i)

@[simp] theorem mem_linksInto {links : List (Link n)} {i : Fin n} {link : Link n} :
    link ∈ linksInto links i ↔ link ∈ links ∧ link.successor = i := by
  simp [linksInto]

@[simp] theorem mem_linksOutOf {links : List (Link n)} {i : Fin n} {link : Link n} :
    link ∈ linksOutOf links i ↔ link ∈ links ∧ link.predecessor = i := by
  simp [linksOutOf]

end Workplan
