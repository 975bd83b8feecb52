import Workplan.Proofs.Network.Release
import Workplan.Proofs.Network.Resolution

/-!
# The order of a network

The order of a project's network holds every task once and every predecessor before its
successors. Facts about tasks are therefore proved along it, from predecessors to successors
or the other way round.

## Main definitions

* `Network.IsOrdered`: every task once, every predecessor before its successors

## Main results

* `isOrdered_of_ofProject`: the network of a project is ordered
* `IsOrdered.induction_along`, `IsOrdered.induction_against`: induction along the order and
  against it
-/

namespace Workplan

variable {n : Nat} {tasks : Vector Task n} {dependencies : List Dependency} {net : Network n}
  {links : List (Link n)}

theorem Release.Ordered.nodup {released : List (Fin n)} (h : Ordered links released) :
    released.Nodup := by
  induction h with
  | nil => exact .nil
  | cons _ not_mem _ ih => exact List.nodup_cons.mpr ⟨not_mem, ih⟩

/-- A predecessor was released before its successor: either the successor is the task released last,
or both were released earlier. -/
theorem Release.Ordered.idxOf_lt {released : List (Fin n)} (h : Ordered links released)
    {link : Link n} (hlink : link ∈ links) (hs : link.successor ∈ released) :
    link.predecessor ∈ released ∧
      released.reverse.idxOf link.predecessor < released.reverse.idxOf link.successor := by
  induction h with
  | nil => cases hs
  | @cons i released ordered not_mem pred_mem ih =>
    simp only [List.reverse_cons]
    rcases List.mem_cons.mp hs with rfl | hs'
    · have hp := pred_mem link hlink rfl
      refine ⟨List.mem_cons_of_mem _ hp, ?_⟩
      rw [List.idxOf_append, if_pos (List.mem_reverse.mpr hp), List.idxOf_append,
        if_neg (by simpa using not_mem)]
      have := List.idxOf_lt_length_of_mem (List.mem_reverse.mpr hp)
      omega
    · obtain ⟨hp, hlt⟩ := ih hs'
      refine ⟨List.mem_cons_of_mem _ hp, ?_⟩
      rw [List.idxOf_append, if_pos (List.mem_reverse.mpr hp), List.idxOf_append,
        if_pos (List.mem_reverse.mpr hs')]
      exact hlt

namespace Network

/-- Every task has its place in the order, behind its predecessors. -/
structure IsOrdered (net : Network n) : Prop where
  nodup : net.order.Nodup
  mem_order : ∀ i, i ∈ net.order
  idxOf_lt : ∀ link ∈ net.links,
    net.order.idxOf link.predecessor < net.order.idxOf link.successor

/-- **The network of a project is ordered.** -/
theorem isOrdered_of_ofProject (h : ofProject tasks dependencies = .ok net) : net.IsOrdered := by
  obtain ⟨-, -, hclosing, -, horder, -⟩ := ofProject_eq_ok h
  have hreleased := Release.mem_released_of_blocked_eq_nil (blocked_eq_nil_of_closingLink? hclosing)
  have hordered : Release.Ordered net.links (Release.after tasks net.links n).released :=
    (Release.isConsistent_after n).ordered
  constructor
  · rw [horder, Release.order]
    exact List.nodup_reverse.mpr hordered.nodup
  · intro i
    rw [horder, Release.order]
    exact List.mem_reverse.mpr (hreleased i)
  · intro link hlink
    rw [horder, Release.order]
    exact (hordered.idxOf_lt hlink (hreleased _)).2

namespace IsOrdered

variable (h : net.IsOrdered) {P : Fin n → Prop}

include h

/-- Induction from predecessors to successors. -/
theorem induction_along
    (step : ∀ i, (∀ link ∈ net.links, link.successor = i → P link.predecessor) → P i)
    (i : Fin n) : P i :=
  (measure fun i => net.order.idxOf i).wf.induction i fun i ih =>
    step i fun link hlink hs => ih link.predecessor (hs ▸ h.idxOf_lt link hlink)

/-- Induction from successors to predecessors, which have more tasks behind them in the order. -/
theorem induction_against
    (step : ∀ i, (∀ link ∈ net.links, link.predecessor = i → P link.successor) → P i)
    (i : Fin n) : P i := by
  refine (measure fun i => net.order.length - net.order.idxOf i).wf.induction i fun i ih =>
    step i fun link hlink hp => ih link.successor ?_
  have hlt := h.idxOf_lt link hlink
  have hlength := List.idxOf_lt_length_of_mem (h.mem_order link.successor)
  rw [hp] at hlt
  change net.order.length - _ < net.order.length - _
  omega

/-- A predecessor stands in front of its successor. -/
theorem mem_front {front back : List (Fin n)} {i : Fin n} (horder : net.order = front ++ i :: back)
    {link : Link n} (hlink : link ∈ net.links) (hs : link.successor = i) :
    link.predecessor ∈ front := by
  have hnodup := h.nodup
  have hlt := h.idxOf_lt link hlink
  rw [horder] at hnodup
  rw [hs, horder, List.idxOf_append, List.idxOf_append,
    if_neg fun hi => List.disjoint_of_nodup_append hnodup hi List.mem_cons_self,
    List.idxOf_cons_self] at hlt
  by_contra hp
  rw [if_neg hp] at hlt
  omega

/-- A successor stands behind its predecessor. -/
theorem mem_back {front back : List (Fin n)} {i : Fin n} (horder : net.order = front ++ i :: back)
    {link : Link n} (hlink : link ∈ net.links) (hp : link.predecessor = i) :
    link.successor ∈ back := by
  have hmem := h.mem_order link.successor
  rw [horder, List.mem_append, List.mem_cons] at hmem
  have hlt := h.idxOf_lt link hlink
  have hnodup := h.nodup
  rw [horder] at hnodup hlt
  have hi : i ∉ front := fun hi =>
    List.disjoint_of_nodup_append hnodup hi List.mem_cons_self
  rcases hmem with hfront | hself | hback
  · rw [hp, List.idxOf_append, if_neg hi, List.idxOf_append, if_pos hfront] at hlt
    have := List.idxOf_lt_length_of_mem hfront
    omega
  · rw [hp, hself] at hlt
    omega
  · exact hback

end IsOrdered

end Network

end Workplan
