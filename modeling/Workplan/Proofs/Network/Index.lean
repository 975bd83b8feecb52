import Mathlib.Data.List.FinRange
import Workplan.Network

/-!
# What an index tells

An index is made in one pass over the tasks, and what it tells is what a search of them would find.
Each id that gets in is a new one, so that no entry of the one table is ever replaced, and the other
one has the ids in their order. The pass stops where an id is in the tables already, which is at the
first that repeats an earlier one.

What is proved of networks is proved about the searches, which need no word on how tables grow.

## Main definitions

* `firstRepeat?`, `position?`, `Network.resolve`: the searches that an index saves
* `TaskIndex.Numbers`: the tables tell of some tasks and no others

## Main results

* `TaskIndex.Numbers.enter_eq_ok`, `TaskIndex.Numbers.enter_eq_error`: one more task
* `TaskIndex.Numbers.exists_foldlM_enter`, `TaskIndex.Numbers.foldlM_enter_eq_error`: a pass over
  some more tasks
* `TaskIndex.exists_ofTasks`, `TaskIndex.ofTasks_eq_error`: the index of all tasks
* `TaskIndex.Numbers.resolve_eq`: dependencies are resolved as by a search
-/

namespace Workplan

variable {n : ℕ} {tasks : Vector Task n}

/-- The first entry that an earlier one equals, given the entries `seen` so far. -/
def firstRepeat? (seen : List String) : List String → Option String
  | [] => none
  | id :: rest => if id ∈ seen then some id else firstRepeat? (id :: seen) rest

/-- The position of the first task with an id. -/
def position? (tasks : Vector Task n) (id : String) : Option (Fin n) :=
  (List.finRange n).find? fun i => (tasks.get i).id = id

/-- The link of a dependency, with its ends found by a search of the tasks. -/
def Network.resolve (tasks : Vector Task n) (d : Dependency) : Except Error (Link n) :=
  resolveBy (Workplan.position? tasks) d

namespace TaskIndex

variable {index : TaskIndex n} {front back : List (Fin n)} {i : Fin n}

/-- **The tables of an index** tell of the tasks at some positions and of no others. -/
structure Numbers (index : TaskIndex n) (tasks : Vector Task n) (front : List (Fin n)) : Prop where
  position?_eq : ∀ id, index.position? id = front.find? fun i => (tasks.get i).id = id
  ids_eq : index.ids.toList = front.map fun i => (tasks.get i).id

/-- The tables of an index without tasks. -/
theorem numbers_empty : (empty : TaskIndex n).Numbers tasks [] where
  position?_eq id := by simp [position?, empty]
  ids_eq := rfl

namespace Numbers

variable (h : index.Numbers tasks front)

include h

/-- The ids in the first table are those of the tasks that are entered. -/
theorem contains_iff {id : String} :
    index.positions.contains id ↔ id ∈ front.map fun i => (tasks.get i).id := by
  rw [Std.TreeMap.contains_eq_isSome_getElem?]
  change (index.position? id).isSome ↔ _
  simp [h.position?_eq]

/-- **An id that is in the tables is refused.** -/
theorem enter_eq_error (hi : (tasks.get i).id ∈ front.map fun j => (tasks.get j).id) :
    enter tasks index i = .error (.duplicateTask (tasks.get i).id) := by
  rw [enter, if_pos (h.contains_iff.mpr hi)]

/-- **A task with a new id gets into both tables.** What the first one tells of the others stays,
since none of them has that id. -/
theorem enter_eq_ok (hi : (tasks.get i).id ∉ front.map fun j => (tasks.get j).id) :
    ∃ index', enter tasks index i = .ok index' ∧ index'.Numbers tasks (front ++ [i]) := by
  refine ⟨_, if_neg (mt h.contains_iff.mp hi), ⟨fun id => ?_, ?_⟩⟩
  · rw [position?, Std.TreeMap.getElem?_insert, List.find?_append, ← h.position?_eq id, position?]
    -- only for the id of the new task does the answer change, and there was none before
    by_cases hid : (tasks.get i).id = id
    · have hnone : index.positions[id]? = none := by
        have hnew := mt h.contains_iff.mp hi
        simpa [hid] using hnew
      simp [hid, hnone]
    · simp [hid]
  · simp [h.ids_eq]

/-- **A pass over tasks without a repeated id** enters all of them. -/
theorem exists_foldlM_enter
    (hback : firstRepeat? (front.map fun i => (tasks.get i).id).reverse
      (back.map fun i => (tasks.get i).id) = none) :
    ∃ index', back.foldlM (enter tasks) index = .ok index' ∧
      index'.Numbers tasks (front ++ back) := by
  induction back generalizing index front with
  | nil => exact ⟨index, rfl, by simpa using h⟩
  | cons i back ih =>
    rw [List.map_cons, firstRepeat?] at hback
    split at hback
    · cases hback
    · next hi =>
      obtain ⟨index', hindex', h'⟩ := h.enter_eq_ok (mt List.mem_reverse.mpr hi)
      obtain ⟨last, hlast, hnumbers⟩ := ih h' (by simpa using hback)
      rw [List.foldlM_cons, hindex']
      exact ⟨last, hlast, by simpa using hnumbers⟩

/-- **A pass stops at the first repeated id.** -/
theorem foldlM_enter_eq_error {id : String}
    (hback : firstRepeat? (front.map fun i => (tasks.get i).id).reverse
      (back.map fun i => (tasks.get i).id) = some id) :
    back.foldlM (enter tasks) index = .error (.duplicateTask id) := by
  induction back generalizing index front with
  | nil => cases hback
  | cons i back ih =>
    rw [List.map_cons, firstRepeat?] at hback
    split at hback
    · next hi =>
      cases hback
      rw [List.foldlM_cons, h.enter_eq_error (List.mem_reverse.mp hi)]
      rfl
    · next hi =>
      obtain ⟨index', hindex', h'⟩ := h.enter_eq_ok (mt List.mem_reverse.mpr hi)
      rw [List.foldlM_cons, hindex']
      exact ih h' (by simpa using hback)

end Numbers

/-! ## The index of all tasks -/

theorem map_finRange_id (tasks : Vector Task n) :
    (List.finRange n).map (fun i => (tasks.get i).id) = tasks.toList.map (·.id) := by
  apply List.ext_getElem <;> simp [Vector.get]

namespace Numbers

variable (h : index.Numbers tasks (List.finRange n))

include h

/-- The one table saves a search of the tasks. -/
theorem position?_eq_search : index.position? = Workplan.position? tasks :=
  funext h.position?_eq

theorem resolve_eq : index.resolve = Network.resolve tasks := by
  funext d
  rw [resolve, h.position?_eq_search, Network.resolve]

/-- The other table has the ids in the order of the tasks. -/
theorem idAt?_eq (k : ℕ) : index.idAt? k = (tasks.toList.map (·.id))[k]? := by
  rw [idAt?, ← Array.getElem?_toList, h.ids_eq, map_finRange_id]

theorem idOf_eq (i : Fin n) : index.idOf i = (tasks.get i).id := by
  rw [idOf, h.idAt?_eq]
  simp [Vector.get]

end Numbers

/-- Tasks with distinct ids have an index, and it tells of all of them. -/
theorem exists_ofTasks (h : firstRepeat? [] (tasks.toList.map (·.id)) = none) :
    ∃ index, ofTasks tasks = .ok index ∧ index.Numbers tasks (List.finRange n) := by
  rw [← map_finRange_id] at h
  exact numbers_empty.exists_foldlM_enter h

theorem ofTasks_eq_error {id : String} (h : firstRepeat? [] (tasks.toList.map (·.id)) = some id) :
    ofTasks tasks = .error (.duplicateTask id) := by
  rw [← map_finRange_id] at h
  exact numbers_empty.foldlM_enter_eq_error h

end TaskIndex

end Workplan
