import Mathlib.Logic.Relation
import Workplan.Proofs.Network.Acyclic

/-!
# The closing link lies on a cycle

The walk back over blocked tasks goes from each task to a predecessor, so the task it has come to
leads to every task that it has visited. A link from a visited task therefore closes a cycle, and
so a project that is refused for a cycle has one. Numbers that grow along the dependencies leave
no cycle, and the order of a network gives such numbers.

## Main definitions

* `LeadsTo`: a dependency from one id to another
* `HasCycle`: a way along dependencies from an id back to itself

## Main results

* `reaches_closingLink?`: the successor of a closing link leads to its predecessor
* `exists_cycle_of_closingLink?`: a closing link is a dependency on a cycle
* `not_hasCycle_of_isAcyclic`: there is no cycle where ids can be numbered
-/

namespace Workplan

variable {n : Nat} {tasks : Vector Task n} {dependencies : List Dependency} {links : List (Link n)}
  {blocked unvisited : List (Fin n)} {current : Fin n} {link : Link n}

/-- A dependency leads from one id to another. -/
def LeadsTo (dependencies : List Dependency) (a b : String) : Prop :=
  ∃ d ∈ dependencies, d.predecessor = a ∧ d.successor = b

/-- Some way along dependencies leads from an id back to itself. -/
def HasCycle (dependencies : List Dependency) : Prop :=
  ∃ id, Relation.TransGen (LeadsTo dependencies) id id

/-! ## The walk -/

/-- A link leads from one task to another. -/
def Linked (links : List (Link n)) (i j : Fin n) : Prop :=
  ∃ link ∈ links, link.predecessor = i ∧ link.successor = j

theorem exists_of_blockingLink? (h : blockingLink? links blocked current = some link) :
    link ∈ links ∧ link.successor = current ∧ link.predecessor ∈ blocked := by
  obtain ⟨hmem, hs⟩ := mem_linksInto.mp (List.mem_of_find?_eq_some h)
  exact ⟨hmem, hs, by simpa using List.find?_some h⟩

/-- **The walk ends at a link whose successor leads to its predecessor**, as the task it has come to
leads to all that it has visited. -/
theorem reaches_closingLinkFrom? (h : closingLinkFrom? links blocked unvisited current = some link)
    (hvisited : ∀ i ∈ blocked, i ∉ unvisited → Relation.ReflTransGen (Linked links) current i) :
    link ∈ links ∧ Relation.ReflTransGen (Linked links) link.successor link.predecessor := by
  fun_induction closingLinkFrom? links blocked unvisited current with
  | case1 => cases h
  | case2 unvisited current step hstep _ ih =>
    obtain ⟨hmem, hs, -⟩ := exists_of_blockingLink? hstep
    refine ih h fun i hi hnot => ?_
    by_cases heq : i = step.predecessor
    · rw [heq]
    · -- what was visited before is led to by way of the task that the walk comes from
      have hbefore := hvisited i hi fun hun => hnot ((List.mem_erase_of_ne heq).mpr hun)
      exact hbefore.head ⟨step, hmem, rfl, hs⟩
  | case3 unvisited current step hstep hnot =>
    cases h
    obtain ⟨hmem, rfl, hp⟩ := exists_of_blockingLink? hstep
    exact ⟨hmem, hvisited _ hp hnot⟩

/-- **The successor of a closing link leads to its predecessor.** -/
theorem reaches_closingLink? (h : closingLink? links blocked = some link) :
    link ∈ links ∧ Relation.ReflTransGen (Linked links) link.successor link.predecessor := by
  cases blocked with
  | nil => cases h
  | cons first rest =>
    refine reaches_closingLinkFrom? h fun i hi hnot => ?_
    rw [(List.mem_cons.mp hi).resolve_right hnot]

/-! ## Cycles of dependencies -/

/-- A link stands for a dependency between the ids of its tasks. -/
theorem leadsTo_of_linked (hlinks : dependencies.mapM (Network.resolve tasks) = .ok links)
    {i j : Fin n} (h : Linked links i j) :
    LeadsTo dependencies (tasks.get i).id (tasks.get j).id := by
  obtain ⟨link, hlink, rfl, rfl⟩ := h
  obtain ⟨d, hd, hresolve⟩ := (mem_of_mapM_eq_ok hlinks link).mp hlink
  obtain ⟨hp, hs⟩ := Network.joins_of_resolve_eq_ok hresolve
  exact ⟨d, hd, hp.symm, hs.symm⟩

/-- **A closing link is a dependency on a cycle.** -/
theorem exists_cycle_of_closingLink?
    (hlinks : dependencies.mapM (Network.resolve tasks) = .ok links)
    (h : closingLink? links blocked = some link) :
    LeadsTo dependencies (tasks.get link.predecessor).id (tasks.get link.successor).id ∧
      Relation.ReflTransGen (LeadsTo dependencies) (tasks.get link.successor).id
        (tasks.get link.predecessor).id := by
  obtain ⟨hmem, hreaches⟩ := reaches_closingLink? h
  exact ⟨leadsTo_of_linked hlinks ⟨link, hmem, rfl, rfl⟩,
    hreaches.lift (fun i => (tasks.get i).id) fun _ _ => leadsTo_of_linked hlinks⟩

/-- **There is no cycle where ids can be numbered.** -/
theorem not_hasCycle_of_isAcyclic (h : IsAcyclic dependencies) : ¬ HasCycle dependencies := by
  rintro ⟨id, hcycle⟩
  obtain ⟨number, hnumber⟩ := h
  have hlt : Relation.TransGen (· < ·) (number id) (number id) := by
    refine hcycle.lift number ?_
    rintro _ _ ⟨d, hd, rfl, rfl⟩
    exact hnumber d hd
  rw [Relation.transGen_eq_self] at hlt
  exact Nat.lt_irrefl _ hlt

end Workplan
