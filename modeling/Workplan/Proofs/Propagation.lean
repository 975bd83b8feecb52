import Mathlib.Data.List.Nodup
import Workplan.Propagation

/-!
# Propagated tables solve their equations

An entry is filled from the table as it stands at its turn. If it reads only entries that
are filled before it, it might as well have been read off the finished table.

## Main results

* `get_propagate`: each entry solves its equation in the finished table
-/

namespace Workplan

variable {α : Type} {n : Nat} {entry : Fin n → Vector (Option α) n → Option α}

/-- Filling other entries leaves an entry as it is. -/
theorem get_fill_of_not_mem {order : List (Fin n)} {i : Fin n} (hi : i ∉ order)
    (table : Vector (Option α) n) :
    (order.foldl (fun table j => setAt table j (entry j table)) table).get i = table.get i := by
  induction order generalizing table with
  | nil => rfl
  | cons j order ih =>
    obtain ⟨hj, hi⟩ := List.ne_and_not_mem_of_not_mem_cons hi
    rw [List.foldl_cons, ih hi, get_setAt, if_neg (Ne.symm hj)]

/-- **Each entry solves its equation in the finished table**, given that it reads only
entries in front of it, which are not filled again after it. -/
theorem get_propagate {order : List (Fin n)} (hnodup : order.Nodup) {i : Fin n} (hi : i ∈ order)
    (hreads : ∀ front back, order = front ++ i :: back → ∀ table table' : Vector (Option α) n,
      (∀ j ∈ front, table.get j = table'.get j) → entry i table = entry i table') :
    (propagate order entry).get i = entry i (propagate order entry) := by
  obtain ⟨front, back, rfl⟩ := List.append_of_mem hi
  have hback : i ∉ back := (List.nodup_cons.mp hnodup.of_append_right).1
  rw [propagate, List.foldl_append, List.foldl_cons, get_fill_of_not_mem hback, get_setAt_self]
  apply hreads front back rfl
  intro j hj
  obtain ⟨hne, hnot⟩ : j ≠ i ∧ j ∉ back :=
    not_or.mp fun h => List.disjoint_of_nodup_append hnodup hj (List.mem_cons.mpr h)
  rw [get_fill_of_not_mem hnot, get_setAt, if_neg hne.symm]

end Workplan
