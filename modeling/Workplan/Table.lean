/-!
# Tables

A table has one entry for each position; it is read by `Vector.get` and changed one entry at
a time.

## Main definitions

* `setAt`: a table with one entry replaced
* `pushAt`: a table of lists with one of them extended

## Main results

* `get_setAt`: the replaced entry is the only one that changes
* `get_pushAt`: the extended list is the only one that changes
-/

namespace Workplan

variable {α : Type} {n : Nat}

/-- A table with the entry at `i` replaced. -/
def setAt (table : Vector α n) (i : Fin n) (a : α) : Vector α n := table.set i.val a i.isLt

theorem get_setAt (table : Vector α n) (i j : Fin n) (a : α) :
    (setAt table i a).get j = if i = j then a else table.get j := by
  change (table.set i.val a i.isLt)[j.val] = if i = j then a else table[j.val]
  rw [Vector.getElem_set]
  simp only [Fin.ext_iff]

@[simp] theorem get_setAt_self (table : Vector α n) (i : Fin n) (a : α) :
    (setAt table i a).get i = a := by
  rw [get_setAt, if_pos rfl]

/-- A table of lists with `a` behind the last entry of the list at `i`. -/
def pushAt (table : Vector (List α) n) (i : Fin n) (a : α) : Vector (List α) n :=
  setAt table i (table.get i ++ [a])

theorem get_pushAt (table : Vector (List α) n) (i j : Fin n) (a : α) :
    (pushAt table i a).get j = if i = j then table.get j ++ [a] else table.get j := by
  rw [pushAt, get_setAt]
  split
  · next h => rw [h]
  · rfl

end Workplan
