import Workplan.Proofs.Network.Order

/-!
# Which projects have a network

A project has a network exactly if its task ids are distinct, its dependencies name tasks that
are there, and no task waits for itself. The last is told by numbers for the ids that grow along
every dependency: the order of a network gives such numbers, and with them at hand no task can
stay blocked, as its blocked predecessors would have ever smaller numbers. Nothing of this
depends on the order in which tasks and dependencies are given.

## Main definitions

* `IsResolved`: every dependency is between two of the tasks
* `IsAcyclic`: ids can be numbered along the dependencies

## Main results

* `blocked_eq_nil_of_lt`: numbers that grow along the links leave no task blocked
* `isAcyclic_of_ofProject`: the order of a network numbers the ids
* `exists_first_of_mapM_eq_error`: a traversal fails at the first entry that does
* `exists_network`, `exists_network_iff`: a project that meets all demands has a network
-/

namespace Workplan

variable {n : Nat} {tasks : Vector Task n} {dependencies : List Dependency} {net : Network n}
  {links : List (Link n)}

/-- Every dependency is between two of the tasks. -/
def IsResolved (tasks : Vector Task n) (dependencies : List Dependency) : Prop :=
  ∀ d ∈ dependencies, ∃ i j, d.Joins tasks i j

/-- Ids can be numbered so that every predecessor comes before its successor. -/
def IsAcyclic (dependencies : List Dependency) : Prop :=
  ∃ number : String → Nat, ∀ d ∈ dependencies, number d.predecessor < number d.successor

/-! ## Numbers along the links -/

/-- **Numbers that grow along the links leave no task blocked.** A blocked task has a blocked
predecessor, which has a lesser number. -/
theorem Release.blocked_eq_nil_of_lt (number : Fin n → Nat)
    (h : ∀ link ∈ links, number link.predecessor < number link.successor) :
    (after tasks links n).blocked = [] := by
  rw [List.eq_nil_iff_forall_not_mem]
  intro i
  induction i using (measure number).wf.induction with
  | h i ih =>
    intro hi
    obtain ⟨link, hlink, hp⟩ := exists_link_of_mem_blocked hi
    obtain ⟨hlink, hs⟩ := mem_linksInto.mp hlink
    have hlt := h link hlink
    rw [hs] at hlt
    exact ih link.predecessor hlt hp

/-! ## Resolving -/

/-- **A traversal fails at the first entry that does.** -/
theorem exists_first_of_mapM_eq_error {α β ε : Type} {f : α → Except ε β} {l : List α} {e : ε}
    (h : l.mapM f = .error e) :
    ∃ front a back, l = front ++ a :: back ∧ (∀ x ∈ front, ∃ b, f x = .ok b) ∧ f a = .error e := by
  induction l with
  | nil => cases h
  | cons a l ih =>
    rw [List.mapM_cons, bind_eq_error_iff] at h
    rcases h with ha | ⟨b, hb, h⟩
    · exact ⟨[], a, l, rfl, nofun, ha⟩
    · rcases bind_eq_error_iff.mp h with hl | ⟨_, -, h⟩
      · obtain ⟨front, x, back, rfl, hfront, hx⟩ := ih hl
        exact ⟨a :: front, x, back, rfl, List.forall_mem_cons.mpr ⟨⟨b, hb⟩, hfront⟩, hx⟩
      · cases h

namespace Network

theorem id_of_locateBy_eq_ok {id : String} {i : Fin n}
    (h : locateBy (Workplan.position? tasks) id = .ok i) : (tasks.get i).id = id := by
  unfold locateBy at h
  split at h
  · next j hj =>
    cases h
    simpa using List.find?_some hj
  · cases h

theorem locateBy_eq_error {id : String} {e : Error}
    (h : locateBy (Workplan.position? tasks) id = .error e) :
    e = .unknownTask id ∧ ∀ i, (tasks.get i).id ≠ id := by
  unfold locateBy at h
  split at h
  · cases h
  · next hnone =>
    cases h
    exact ⟨rfl, fun i => by simpa using List.find?_eq_none.mp hnone i (List.mem_finRange i)⟩

/-- A dependency that is resolved is between the tasks of its link. -/
theorem joins_of_resolve_eq_ok {d : Dependency} {link : Link n}
    (h : resolve tasks d = .ok link) : d.Joins tasks link.predecessor link.successor := by
  obtain ⟨i, hi, h⟩ := bind_eq_ok_iff.mp h
  obtain ⟨j, hj, h⟩ := bind_eq_ok_iff.mp h
  cases h
  exact ⟨id_of_locateBy_eq_ok hi, id_of_locateBy_eq_ok hj⟩

/-- A dependency that is not resolved names a task that is not there. -/
theorem resolve_eq_error {d : Dependency} {e : Error} (h : resolve tasks d = .error e) :
    (∃ id, e = .unknownTask id) ∧ ∀ i j, ¬ d.Joins tasks i j := by
  rcases bind_eq_error_iff.mp h with hi | ⟨i, -, h⟩
  · obtain ⟨rfl, hne⟩ := locateBy_eq_error hi
    exact ⟨⟨_, rfl⟩, fun i j hjoins => hne i hjoins.1⟩
  · rcases bind_eq_error_iff.mp h with hj | ⟨j, -, h⟩
    · obtain ⟨rfl, hne⟩ := locateBy_eq_error hj
      exact ⟨⟨_, rfl⟩, fun i j hjoins => hne j hjoins.2⟩
    · cases h

theorem isResolved_of_mapM_eq_ok (h : dependencies.mapM (resolve tasks) = .ok links) :
    IsResolved tasks dependencies := by
  intro d hd
  obtain ⟨link, -, hresolve⟩ := exists_mem_of_mapM_eq_ok h hd
  exact ⟨_, _, joins_of_resolve_eq_ok hresolve⟩

/-! ## Numbering -/

/-- **The order of a network numbers the ids.** -/
theorem isAcyclic_of_ofProject (h : ofProject tasks dependencies = .ok net) :
    IsAcyclic dependencies := by
  refine ⟨fun id => ((net.position? id).map net.order.idxOf).getD 0, fun d hd => ?_⟩
  obtain ⟨link, hlink, ⟨hp, hs⟩, -⟩ := exists_mem_links h hd
  simp only [(position?_eq_some_iff h).mpr hp, (position?_eq_some_iff h).mpr hs,
    Option.map_some, Option.getD_some]
  exact (isOrdered_of_ofProject h).idxOf_lt link hlink

/-- Numbers of the ids are numbers of the tasks. -/
theorem closingLink?_eq_none_of_isAcyclic
    (hlinks : dependencies.mapM (resolve tasks) = .ok links) (h : IsAcyclic dependencies) :
    closingLink? links (Release.after tasks links n).blocked = none := by
  obtain ⟨number, hnumber⟩ := h
  rw [Release.blocked_eq_nil_of_lt fun i => number (tasks.get i).id]
  · rfl
  · intro link hlink
    obtain ⟨d, hd, hresolve⟩ := (mem_of_mapM_eq_ok hlinks link).mp hlink
    obtain ⟨hp, hs⟩ := joins_of_resolve_eq_ok hresolve
    rw [hp, hs]
    exact hnumber d hd

/-! ## Demands on a project -/

/-- The dependencies of a resolved project can be replaced by links. -/
theorem exists_links (h : IsResolved tasks dependencies) :
    ∃ links, dependencies.mapM (resolve tasks) = .ok links := by
  cases hlinks : dependencies.mapM (resolve tasks) with
  | ok links => exact ⟨links, rfl⟩
  | error e =>
    obtain ⟨front, d, back, rfl, -, hresolve⟩ := exists_first_of_mapM_eq_error hlinks
    obtain ⟨i, j, hjoins⟩ := h d (List.mem_append_right _ List.mem_cons_self)
    exact absurd hjoins ((resolve_eq_error hresolve).2 i j)

variable (hnodup : (tasks.toList.map (·.id)).Nodup) (hresolved : IsResolved tasks dependencies)

include hnodup hresolved

/-- **A project that meets all demands has a network.** -/
theorem exists_network (h : IsAcyclic dependencies) :
    ∃ net, ofProject tasks dependencies = .ok net := by
  obtain ⟨links, hlinks⟩ := exists_links hresolved
  obtain ⟨index, -, heq⟩ := ofProject_of_nodup hnodup dependencies
  refine ⟨{ tasks, index, links, order := (Release.after tasks links n).order }, ?_⟩
  rw [heq, hlinks]
  simp only [bind, Except.bind, closingLink?_eq_none_of_isAcyclic hlinks h]

omit hnodup hresolved in
/-- A project has a network exactly if it meets all demands. -/
theorem exists_network_iff :
    (∃ net, ofProject tasks dependencies = .ok net) ↔
      (tasks.toList.map (·.id)).Nodup ∧ IsResolved tasks dependencies ∧
        IsAcyclic dependencies := by
  constructor
  · rintro ⟨net, h⟩
    exact ⟨(ofProject_eq_ok h).1, isResolved_of_mapM_eq_ok (ofProject_eq_ok h).2.1,
      isAcyclic_of_ofProject h⟩
  · rintro ⟨hnodup, hresolved, hacyclic⟩
    exact exists_network hnodup hresolved hacyclic

end Network

end Workplan
