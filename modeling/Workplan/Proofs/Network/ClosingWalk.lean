import Workplan.Proofs.Network.Refusal

/-!
# The walk that closes a cycle

On its way back over blocked tasks, the walk remembers which tasks it has visited and ends when it
comes to one of them again. It cannot get stuck, as a blocked task has a blocked predecessor, and it
cannot go on for ever, as there are fewer and fewer blocked tasks that it has not visited. So where
dependencies have a cycle, the walk starts from a blocked task and ends at a link on a cycle, even
if the task that it starts from is only behind one.

## Main definitions

* `WalkEnd`: where a walk can end
* `WalksTo`: a walk from a task to its end, with the tasks visited before
* `ClosesAt`: the walk from the first blocked task ends at a link, and nowhere else

## Main results

* `WalksTo.unique`: a walk has one end
* `walksTo_of_closingLinkFrom?`: the search with the tasks not yet visited is this walk
* `closesAt_of_closingLink?`: the closing link is where the walk from the first blocked task ends
* `ofProject_of_hasCycle`: dependencies with a cycle are refused with a link on one
-/

namespace Workplan

variable {n : Nat}

/-- Where a walk back can end. -/
inductive WalkEnd (n : Nat) where
  /-- A link from a task that has been visited. -/
  | closed (link : Link n)
  /-- A task without a blocked predecessor. -/
  | stuck (current : Fin n)

/-- **A walk back from a task to its end**, from each task to the first of its blocked predecessors,
with the tasks `visited` before. -/
inductive WalksTo (links : List (Link n)) (blocked : List (Fin n)) :
    List (Fin n) → Fin n → WalkEnd n → Prop
  | stuck {visited : List (Fin n)} {current : Fin n}
      (none : blockingLink? links blocked current = none) :
      WalksTo links blocked visited current (.stuck current)
  | closed {visited : List (Fin n)} {current : Fin n} {link : Link n}
      (blocking : blockingLink? links blocked current = some link)
      (mem : link.predecessor ∈ current :: visited) :
      WalksTo links blocked visited current (.closed link)
  | step {visited : List (Fin n)} {current : Fin n} {link : Link n} {e : WalkEnd n}
      (blocking : blockingLink? links blocked current = some link)
      (not_mem : link.predecessor ∉ current :: visited)
      (rest : WalksTo links blocked (current :: visited) link.predecessor e) :
      WalksTo links blocked visited current e

/-- The walk back from the first blocked task ends at a link, and nowhere else. -/
def ClosesAt (links : List (Link n)) (blocked : List (Fin n)) (link : Link n) : Prop :=
  ∃ first, blocked.head? = some first ∧
    ∀ e, WalksTo links blocked [] first e ↔ e = .closed link

variable {tasks : Vector Task n} {dependencies : List Dependency} {links : List (Link n)}
  {blocked unvisited visited : List (Fin n)} {current : Fin n} {link : Link n} {e e' : WalkEnd n}

/-- **A walk has one end.** At each task the link to go back along is the first one from a blocked
task, so that two walks go the same way, and neither can end where the other one goes on. -/
theorem WalksTo.unique (h : WalksTo links blocked visited current e)
    (h' : WalksTo links blocked visited current e') : e = e' := by
  induction h with
  | stuck none =>
    cases h' with
    | stuck => rfl
    | closed blocking => rw [none] at blocking; cases blocking
    | step blocking => rw [none] at blocking; cases blocking
  | closed blocking mem =>
    cases h' with
    | stuck none => rw [none] at blocking; cases blocking
    | closed blocking' => rw [Option.some.inj (blocking.symm.trans blocking')]
    | step blocking' not_mem =>
      rw [Option.some.inj (blocking.symm.trans blocking')] at mem
      exact absurd mem not_mem
  | step blocking not_mem rest ih =>
    cases h' with
    | stuck none => rw [none] at blocking; cases blocking
    | closed blocking' mem =>
      rw [Option.some.inj (blocking.symm.trans blocking')] at not_mem
      exact absurd mem not_mem
    | step blocking' _ rest' =>
      rw [Option.some.inj (blocking.symm.trans blocking')] at ih
      exact ih rest'

/-- **The search with the blocked tasks that are not visited is the walk** with those that are. -/
theorem walksTo_of_closingLinkFrom? (hnodup : unvisited.Nodup)
    (hvisited : ∀ i ∈ blocked, i ∈ unvisited ↔ i ∉ current :: visited)
    (h : closingLinkFrom? links blocked unvisited current = some link) :
    WalksTo links blocked visited current (.closed link) := by
  fun_induction closingLinkFrom? links blocked unvisited current generalizing visited with
  | case1 => cases h
  | case2 unvisited current step hstep hmem ih =>
    have hblocked := (exists_of_blockingLink? hstep).2.2
    refine .step hstep ((hvisited _ hblocked).mp hmem) (ih (hnodup.erase _) (fun i hi => ?_) h)
    simp only [hnodup.mem_erase_iff, hvisited i hi, List.mem_cons, not_or, ne_eq]
  | case3 unvisited current step hstep hnot =>
    cases h
    have hblocked := (exists_of_blockingLink? hstep).2.2
    exact .closed hstep (not_not.mp (mt (hvisited _ hblocked).mpr hnot))

/-- A blocked task is missing in the order. -/
theorem Release.length_order_lt {i : Fin n} (hi : i ∈ (after tasks links n).blocked) :
    (after tasks links n).order.length < n := by
  have h : IsConsistent links [] (after tasks links n) := isConsistent_after n
  have hnot : i ∉ (after tasks links n).released := fun hmem =>
    mem_blocked.mp hi ((h.pending_eq_zero_iff i).mpr (Or.inr hmem))
  have hcard := (List.nodup_cons.mpr ⟨hnot, h.ordered.nodup⟩).length_le_card
  rw [Fintype.card_fin] at hcard
  rwa [order, List.length_reverse]

/-- **The walk from the first blocked task ends at the closing link.** -/
theorem closesAt_of_closingLink? (hnodup : blocked.Nodup)
    (h : closingLink? links blocked = some link) : ClosesAt links blocked link := by
  cases blocked with
  | nil => cases h
  | cons first rest =>
    obtain ⟨hfirst, hrest⟩ := List.nodup_cons.mp hnodup
    have hwalk : WalksTo links (first :: rest) [] first (.closed link) := by
      refine walksTo_of_closingLinkFrom? hrest (fun i hi => ?_) h
      grind
    exact ⟨first, rfl, fun e => ⟨fun he => he.unique hwalk, fun he => he ▸ hwalk⟩⟩

namespace Network

variable (hnodup : (tasks.toList.map (·.id)).Nodup) (hresolved : IsResolved tasks dependencies)
  (hcycle : HasCycle dependencies)

include hnodup hresolved hcycle

/-- **Dependencies with a cycle are refused with a link on one**: the order falls short, and the
walk back from the first blocked task ends at the link. If the walk found none, there would be a
network, whose order rules a cycle out. -/
theorem ofProject_of_hasCycle :
    ∃ links link, dependencies.mapM (resolve tasks) = .ok links ∧
      (Release.after tasks links n).order.length < n ∧
      ClosesAt links (Release.after tasks links n).blocked link ∧
      ofProject tasks dependencies =
        .error (.circular (tasks.get link.predecessor).id (tasks.get link.successor).id) ∧
      LeadsTo dependencies (tasks.get link.predecessor).id (tasks.get link.successor).id ∧
      Relation.ReflTransGen (LeadsTo dependencies) (tasks.get link.successor).id
        (tasks.get link.predecessor).id := by
  obtain ⟨links, hlinks⟩ := exists_links hresolved
  obtain ⟨_, -, hproject⟩ := ofProject_of_nodup hnodup dependencies
  rw [hlinks] at hproject
  cases hclosing : closingLink? links (Release.after tasks links n).blocked with
  | none =>
    simp only [bind, Except.bind, hclosing] at hproject
    exact absurd hcycle (not_hasCycle_of_isAcyclic (isAcyclic_of_ofProject hproject))
  | some link =>
    simp only [bind, Except.bind, hclosing] at hproject
    have hblocked : (Release.after tasks links n).blocked.Nodup := (List.nodup_finRange n).filter _
    obtain ⟨first, hfirst, hwalk⟩ := closesAt_of_closingLink? hblocked hclosing
    obtain ⟨hleads, hreaches⟩ := exists_cycle_of_closingLink? hlinks hclosing
    refine ⟨links, link, hlinks, ?_, ⟨first, hfirst, hwalk⟩, hproject, hleads, hreaches⟩
    exact Release.length_order_lt (List.mem_of_head? hfirst)

end Network

namespace Sample

/-- A draft and its review wait for each other, behind a kickoff and before a release. -/
def looped : Vector Task 4 :=
  #v[{ id := "release" }, { id := "kickoff" }, { id := "draft" }, { id := "review" }]

def loopedDependencies : List Dependency :=
  [⟨"kickoff", "draft", {}⟩, ⟨"draft", "review", {}⟩, ⟨"review", "draft", {}⟩,
    ⟨"review", "release", {}⟩]

/-- The walk starts from the release, which is not on the cycle. -/
theorem ofProject_of_hasCycle_sample :
    (looped.toList.map (·.id)).Nodup ∧ IsResolved looped loopedDependencies ∧
    HasCycle loopedDependencies ∧
    ∃ links link, loopedDependencies.mapM (Network.resolve looped) = .ok links ∧
      (Release.after looped links 4).order.length < 4 ∧
      ClosesAt links (Release.after looped links 4).blocked link ∧
      Network.ofProject looped loopedDependencies =
        .error (.circular (looped.get link.predecessor).id (looped.get link.successor).id) ∧
      LeadsTo loopedDependencies (looped.get link.predecessor).id (looped.get link.successor).id ∧
      Relation.ReflTransGen (LeadsTo loopedDependencies) (looped.get link.successor).id
        (looped.get link.predecessor).id := by
  have hnodup : (looped.toList.map (·.id)).Nodup := by decide
  have hresolved : IsResolved looped loopedDependencies := by
    unfold IsResolved
    decide
  have hcycle : HasCycle loopedDependencies :=
    ⟨"draft", .head ⟨⟨"draft", "review", {}⟩, by decide, rfl, rfl⟩
      (.single ⟨⟨"review", "draft", {}⟩, by decide, rfl, rfl⟩)⟩
  exact ⟨hnodup, hresolved, hcycle, Network.ofProject_of_hasCycle hnodup hresolved hcycle⟩

end Sample

end Workplan
