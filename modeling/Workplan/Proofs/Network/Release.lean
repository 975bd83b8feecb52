import Mathlib.Data.Fintype.Card
import Workplan.Network

/-!
# Releases keep the order of the links

Whatever has been released so far was released behind its predecessors, and the counters of
open links are exact: this holds at the start and each step keeps it. After as many steps as
there are tasks nothing is ready any more, and a task that is then still blocked has a
blocked predecessor, so that a walk back from it never gets stuck.

## Main definitions

* `Release.Ordered`: released tasks, each behind its predecessors
* `Release.IsConsistent`: what holds while the links of a released task are closed

## Main results

* `isConsistent_after`: a release is consistent after any number of steps
* `ready_after`: after as many steps as there are tasks, none is ready
* `blocked_eq_nil_of_closingLink?`: without a closing link, no task is blocked
-/

namespace Workplan

variable {n : Nat} {tasks : Vector Task n} {links : List (Link n)}

namespace Release

/-- Released tasks, last one first, each of them behind its predecessors. -/
inductive Ordered (links : List (Link n)) : List (Fin n) → Prop
  | nil : Ordered links []
  | cons {i : Fin n} {released : List (Fin n)} (ordered : Ordered links released)
      (not_mem : i ∉ released)
      (pred_mem : ∀ link ∈ links, link.successor = i → link.predecessor ∈ released) :
      Ordered links (i :: released)

/-- The number of links into a task from tasks that are not released. -/
def openCount (links : List (Link n)) (released : List (Fin n)) (j : Fin n) : Nat :=
  links.countP fun link => link.successor = j && !released.contains link.predecessor

/-- **What holds while the links of a released task are closed**, with `todo` those still to
be closed. -/
structure IsConsistent (links todo : List (Link n)) (state : Release n) : Prop where
  ordered : Ordered links state.released
  nodup : (state.ready ++ state.released).Nodup
  pending_eq : ∀ j, state.pending.get j =
    openCount links state.released j + todo.countP (·.successor = j)
  pending_eq_zero_iff : ∀ j, state.pending.get j = 0 ↔ j ∈ state.ready ∨ j ∈ state.released

/-! ## Steps -/

theorem enqueue_perm (i : Fin n) (ready : List (Fin n)) :
    (enqueue tasks i ready).Perm (i :: ready) :=
  insertWhere_perm _ i ready

theorem foldr_enqueue_perm (l : List (Fin n)) : (l.foldr (enqueue tasks) []).Perm l := by
  induction l with
  | nil => exact .refl _
  | cons i l ih => exact (enqueue_perm i _).trans (ih.cons i)

theorem pending_initial (j : Fin n) :
    (initial tasks links).pending.get j = (linksInto links j).length :=
  Vector.getElem_ofFn j.isLt

theorem released_initial : (initial tasks links).released = [] := rfl

theorem ready_initial_perm : (initial tasks links).ready.Perm
    ((List.finRange n).filter fun j => (initial tasks links).pending.get j = 0) :=
  foldr_enqueue_perm _

/-- A task has no open link exactly if all its predecessors are released. -/
theorem openCount_eq_zero_iff {released : List (Fin n)} {j : Fin n} :
    openCount links released j = 0 ↔
      ∀ link ∈ links, link.successor = j → link.predecessor ∈ released := by
  simp [openCount]

theorem isConsistent_initial : IsConsistent links [] (initial tasks links) where
  ordered := .nil
  nodup := by
    rw [released_initial, List.append_nil, ready_initial_perm.nodup_iff]
    exact (List.nodup_finRange n).filter _
  pending_eq j := by
    rw [pending_initial, linksInto, ← List.countP_eq_length_filter]
    simp [openCount, released_initial]
  pending_eq_zero_iff j := by
    rw [ready_initial_perm.mem_iff, released_initial]
    simp

section Todo

variable {link : Link n} {todo : List (Link n)} {state : Release n}
  (h : IsConsistent links (link :: todo) state)

include h

/-- A link that is still to be closed is counted. -/
theorem IsConsistent.pending_pos : 0 < state.pending.get link.successor := by
  rw [h.pending_eq, List.countP_cons_of_pos (by simp)]
  exact Nat.succ_pos _

/-- The successor of a link that is still to be closed waits. -/
theorem IsConsistent.not_mem : link.successor ∉ state.ready ∧ link.successor ∉ state.released := by
  rw [← not_or, ← h.pending_eq_zero_iff]
  exact h.pending_pos.ne'

omit h in
theorem get_pending_close (j : Fin n) : (close tasks state link).pending.get j =
    if link.successor = j then state.pending.get link.successor - 1 else state.pending.get j :=
  get_setAt _ _ _ _

/-- **Closing a link keeps a release consistent.** If it is the last one that its successor waits
for, the successor becomes ready; it was not before, as its counter was above zero. -/
theorem isConsistent_close : IsConsistent links todo (close tasks state link) where
  ordered := h.ordered
  nodup := by
    change ((if _ then _ else _) ++ state.released).Nodup
    split
    · refine ((enqueue_perm _ _).append_right _).nodup_iff.mpr ?_
      exact List.nodup_cons.mpr ⟨by simp [h.not_mem], h.nodup⟩
    · exact h.nodup
  pending_eq j := by
    rw [get_pending_close]
    split
    · next heq =>
      subst heq
      rw [h.pending_eq, List.countP_cons_of_pos (by simp)]
      rfl
    · next hne =>
      rw [h.pending_eq, List.countP_cons_of_neg (by simpa using hne)]
      rfl
  pending_eq_zero_iff j := by
    rw [get_pending_close]
    change _ ↔ j ∈ (if _ then _ else _) ∨ j ∈ state.released
    by_cases heq : link.successor = j
    · subst heq
      rw [if_pos rfl]
      split
      · next hzero => simp [hzero, enqueue]
      · next hne => simp [hne, h.not_mem]
    · rw [if_neg heq, h.pending_eq_zero_iff]
      split
      · simp [enqueue, Ne.symm heq]
      · rfl

end Todo

theorem isConsistent_foldl_close {todo : List (Link n)} {state : Release n}
    (h : IsConsistent links todo state) :
    IsConsistent links [] (todo.foldl (close tasks) state) := by
  induction todo generalizing state with
  | nil => exact h
  | cons link todo ih => exact ih (isConsistent_close h)

theorem foldl_close_released (todo : List (Link n)) (state : Release n) :
    (todo.foldl (close tasks) state).released = state.released := by
  induction todo generalizing state with
  | nil => rfl
  | cons link todo ih => exact ih _

/-- Releasing a task splits the open links into those that stay open and those out of it. -/
theorem openCount_cons {i : Fin n} {released : List (Fin n)} (hi : i ∉ released) (j : Fin n) :
    openCount links released j =
      openCount links (i :: released) j + (linksOutOf links i).countP (·.successor = j) := by
  simp only [openCount, linksOutOf, List.countP_filter]
  induction links with
  | nil => rfl
  | cons link links ih =>
    simp only [List.countP_cons, ih]
    by_cases hs : link.successor = j
    · by_cases hp : link.predecessor = i
      · simp [hs, hp, hi]
        omega
      · simp [hs, hp]
        omega
    · simp [hs]

/-- **Releasing the first ready task leaves the links out of it to be closed.** No link into it is
open, so its predecessors are all released before it. -/
theorem isConsistent_release {state : Release n} {i : Fin n} {rest : List (Fin n)}
    (h : IsConsistent links [] state) (hready : state.ready = i :: rest) :
    IsConsistent links (linksOutOf links i)
      { state with ready := rest, released := i :: state.released } := by
  have hnodup := h.nodup
  rw [hready, List.cons_append, List.nodup_cons, List.mem_append, not_or] at hnodup
  obtain ⟨⟨hrest, hreleased⟩, hnodup⟩ := hnodup
  refine ⟨h.ordered.cons hreleased ?_, ?_, ?_, ?_⟩
  · have hzero := (h.pending_eq_zero_iff i).mpr (Or.inl (by simp [hready]))
    rw [h.pending_eq, Nat.add_eq_zero_iff, openCount_eq_zero_iff] at hzero
    exact hzero.1
  · apply List.perm_middle.nodup_iff.mpr
    exact List.nodup_cons.mpr ⟨by simp [hrest, hreleased], hnodup⟩
  · -- the links out of the task are the ones that are closed next
    intro j
    change state.pending.get j = _
    rw [h.pending_eq, openCount_cons hreleased]
    rfl
  · intro j
    change state.pending.get j = 0 ↔ _
    rw [h.pending_eq_zero_iff, hready, List.mem_cons, List.mem_cons]
    grind

theorem isConsistent_step {state : Release n} (h : IsConsistent links [] state) :
    IsConsistent links [] (step tasks links state) := by
  unfold step
  split
  · exact h
  · next i rest hready => exact isConsistent_foldl_close (isConsistent_release h hready)

/-! ## Runs -/

/-- **A release is consistent after any number of steps.** -/
theorem isConsistent_after (k : Nat) : IsConsistent links [] (after tasks links k) := by
  induction k with
  | zero => exact isConsistent_initial
  | succ k ih => exact isConsistent_step ih

/-- Each step releases a task, as long as one is ready. -/
theorem length_released_after (k : Nat) :
    (after tasks links k).released.length = k ∨ (after tasks links k).ready = [] := by
  induction k with
  | zero => exact Or.inl rfl
  | succ k ih =>
    rw [after, step]
    split
    · next hready => exact Or.inr hready
    · next i rest hready =>
      rw [foldl_close_released, List.length_cons]
      exact Or.inl (congrArg _ (ih.resolve_right (by simp [hready])))

/-- After as many steps as there are tasks, none is ready. Either a step found no ready task before,
or each of the steps released one; then all are released, and a ready one would be one more. -/
theorem ready_after : (after tasks links n).ready = [] := by
  rcases length_released_after n with hlength | hready
  · have h : IsConsistent links [] (after tasks links n) := isConsistent_after n
    have hcard := h.nodup.length_le_card
    rw [List.length_append, hlength, Fintype.card_fin] at hcard
    exact List.length_eq_zero_iff.mp (by omega)
  · exact hready

theorem mem_blocked {state : Release n} {i : Fin n} :
    i ∈ state.blocked ↔ state.pending.get i ≠ 0 := by
  simp [blocked]

/-- **A task that stays blocked has a blocked predecessor.** It waits for a task that is not
released, and as none is ready any more, what is not released is blocked. -/
theorem exists_link_of_mem_blocked {i : Fin n} (hi : i ∈ (after tasks links n).blocked) :
    ∃ link ∈ linksInto links i, link.predecessor ∈ (after tasks links n).blocked := by
  have h : IsConsistent links [] (after tasks links n) := isConsistent_after n
  have hpending := mem_blocked.mp hi
  rw [h.pending_eq, List.countP_nil, Nat.add_zero, Ne, openCount_eq_zero_iff] at hpending
  push Not at hpending
  obtain ⟨link, hlink, hs, hp⟩ := hpending
  refine ⟨link, mem_linksInto.mpr ⟨hlink, hs⟩, mem_blocked.mpr ?_⟩
  rw [Ne, h.pending_eq_zero_iff, ready_after]
  simpa using hp

theorem mem_released_of_blocked_eq_nil (h : (after tasks links n).blocked = []) (i : Fin n) :
    i ∈ (after tasks links n).released := by
  have hi : ¬ i ∈ (after tasks links n).blocked := by simp [h]
  rw [mem_blocked, not_not, (isConsistent_after n).pending_eq_zero_iff, ready_after] at hi
  simpa using hi

end Release

/-! ## Closing links -/

/-- Where every blocked task has a blocked predecessor, the walk back ends at a closing
link. -/
theorem isSome_closingLinkFrom? {blocked : List (Fin n)}
    (h : ∀ i ∈ blocked, ∃ link ∈ linksInto links i, link.predecessor ∈ blocked)
    (unvisited : List (Fin n)) {current : Fin n} (hc : current ∈ blocked) :
    (closingLinkFrom? links blocked unvisited current).isSome := by
  fun_induction closingLinkFrom? links blocked unvisited current with
  | case1 unvisited current hnone =>
    obtain ⟨link, hlink, hp⟩ := h current hc
    have := List.find?_eq_none.mp hnone link hlink
    simp [hp] at this
  | case2 unvisited current link hsome hmem ih =>
    have := List.find?_some hsome
    exact ih (by simpa using this)
  | case3 => rfl

/-- **Without a closing link, no task stays blocked.** -/
theorem blocked_eq_nil_of_closingLink?
    (h : closingLink? links (Release.after tasks links n).blocked = none) :
    (Release.after tasks links n).blocked = [] := by
  cases hb : (Release.after tasks links n).blocked with
  | nil => rfl
  | cons first rest =>
    have hsome := isSome_closingLinkFrom? (fun i => Release.exists_link_of_mem_blocked) rest
      (show first ∈ (Release.after tasks links n).blocked by simp [hb])
    rw [hb, closingLink?] at h
    rw [hb, h] at hsome
    cases hsome

end Workplan
