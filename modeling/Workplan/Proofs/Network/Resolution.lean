import Mathlib.Data.List.Forall2
import Mathlib.Data.List.Nodup
import Workplan.Proofs.Network.Index

/-!
# Resolving dependencies

A network is made only of tasks with distinct ids, and its links are the dependencies of the
project with their ids replaced by positions.

## Main definitions

* `Dependency.Joins`, `Joined`: a dependency between the tasks at two positions

## Main results

* `ofProject_of_nodup`, `ofProject_of_repeat`: the steps to a network, told by searches of the tasks
* `ofProject_eq_ok`: what the network of a project is made of
* `id_injective`: different positions have different ids
* `mem_links_iff`: the links of a network are the dependencies of its project
* `outgoing_eq_nil_iff`: nothing is behind a task that no dependency names as predecessor
-/

namespace Workplan

variable {n : Nat} {tasks : Vector Task n} {dependencies : List Dependency} {net : Network n}

/-- A dependency between the tasks at two positions. -/
def Dependency.Joins (d : Dependency) (tasks : Vector Task n) (i j : Fin n) : Prop :=
  (tasks.get i).id = d.predecessor ∧ (tasks.get j).id = d.successor

instance (d : Dependency) (tasks : Vector Task n) (i j : Fin n) : Decidable (d.Joins tasks i j) :=
  inferInstanceAs (Decidable (_ ∧ _))

/-- A dependency leads from one task to another. -/
def Joined (tasks : Vector Task n) (dependencies : List Dependency) (i j : Fin n) : Prop :=
  ∃ d ∈ dependencies, d.Joins tasks i j

instance (tasks : Vector Task n) (dependencies : List Dependency) (i j : Fin n) :
    Decidable (Joined tasks dependencies i j) :=
  inferInstanceAs (Decidable (∃ d ∈ dependencies, _))

/-- There is no repeat in a list exactly if it has none in itself and none of what was seen before
it. -/
theorem firstRepeat?_eq_none_iff {seen l : List String} :
    firstRepeat? seen l = none ↔ l.Nodup ∧ ∀ id ∈ l, id ∉ seen := by
  induction l generalizing seen with
  | nil => simp [firstRepeat?]
  | cons id rest ih =>
    rw [firstRepeat?]
    split
    · next h => simp [h]
    · next h =>
      rw [ih, List.nodup_cons]
      simp only [List.mem_cons, not_or, forall_eq_or_imp]
      grind

/-- A composition succeeds exactly if both of its parts do. -/
theorem bind_eq_ok_iff {α β ε : Type} {x : Except ε α} {f : α → Except ε β} {b : β} :
    x >>= f = .ok b ↔ ∃ a, x = .ok a ∧ f a = .ok b := by
  cases x <;> simp [bind, Except.bind]

/-- A composition fails exactly if its first part does, or the second part on the result of the
first. -/
theorem bind_eq_error_iff {α β ε : Type} {x : Except ε α} {f : α → Except ε β} {e : ε} :
    x >>= f = .error e ↔ x = .error e ∨ ∃ a, x = .ok a ∧ f a = .error e := by
  cases x <;> simp [bind, Except.bind]

/-- A traversal succeeds with the results of its entries, one for each of them. -/
theorem mapM_eq_ok_iff {α β ε : Type} {f : α → Except ε β} {l : List α} {l' : List β} :
    l.mapM f = .ok l' ↔ List.Forall₂ (fun a b => f a = .ok b) l l' := by
  induction l generalizing l' with
  | nil =>
    rw [List.mapM_nil, List.forall₂_nil_left_iff]
    exact ⟨fun h => by cases h; rfl, fun h => by rw [h]; rfl⟩
  | cons a l ih =>
    rw [List.mapM_cons, bind_eq_ok_iff, List.forall₂_cons_left_iff]
    refine exists_congr fun b => ?_
    simp only [bind_eq_ok_iff, ih, pure, Except.pure, Except.ok.injEq]
    grind

/-- The results of a successful traversal are those of the single entries. -/
theorem mem_of_mapM_eq_ok {α β ε : Type} {f : α → Except ε β} {l : List α} {l' : List β}
    (h : l.mapM f = .ok l') (b : β) : b ∈ l' ↔ ∃ a ∈ l, f a = .ok b := by
  have hf := mapM_eq_ok_iff.mp h
  clear h
  induction hf with
  | nil => simp
  | cons hab _ ih => simp [hab, ih, eq_comm]

/-- Each entry of a successful traversal has a result. -/
theorem exists_mem_of_mapM_eq_ok {α β ε : Type} {f : α → Except ε β} {l : List α} {l' : List β}
    (h : l.mapM f = .ok l') {a : α} (ha : a ∈ l) : ∃ b ∈ l', f a = .ok b := by
  obtain ⟨k, hk, rfl⟩ := List.mem_iff_getElem.mp ha
  have hf := mapM_eq_ok_iff.mp h
  have hk' : k < l'.length := hf.length_eq ▸ hk
  exact ⟨l'[k], List.getElem_mem hk', hf.get hk hk'⟩

namespace Network

/-- With distinct ids the dependencies are resolved, and then searched for a cycle. -/
theorem ofProject_of_nodup (hnodup : (tasks.toList.map (·.id)).Nodup)
    (dependencies : List Dependency) :
    ∃ index : TaskIndex n, index.Numbers tasks (List.finRange n) ∧
      ofProject tasks dependencies = (do
        let links ← dependencies.mapM (resolve tasks)
        match closingLink? links (Release.after tasks links n).blocked with
        | some link =>
          .error (.circular (tasks.get link.predecessor).id (tasks.get link.successor).id)
        | none => .ok { tasks, index, links, order := (Release.after tasks links n).order }) := by
  obtain ⟨index, hindex, h⟩ := TaskIndex.exists_ofTasks
    (firstRepeat?_eq_none_iff.mpr ⟨hnodup, by simp⟩)
  refine ⟨index, h, ?_⟩
  simp only [ofProject, hindex, bind, Except.bind, h.resolve_eq, h.idOf_eq]
  cases dependencies.mapM (resolve tasks) with
  | error e => rfl
  | ok links =>
    dsimp only
    cases closingLink? links (Release.after tasks links n).blocked <;> rfl

/-- Without distinct ids the first one that repeats an earlier one is refused. -/
theorem ofProject_of_repeat {id : String}
    (h : firstRepeat? [] (tasks.toList.map (·.id)) = some id) :
    ofProject tasks dependencies = .error (.duplicateTask id) := by
  rw [ofProject, TaskIndex.ofTasks_eq_error h]
  rfl

/-- **What the network of a project is made of.** -/
theorem ofProject_eq_ok (h : ofProject tasks dependencies = .ok net) :
    (tasks.toList.map (·.id)).Nodup ∧ dependencies.mapM (resolve tasks) = .ok net.links ∧
      closingLink? net.links (Release.after tasks net.links n).blocked = none ∧
      net.tasks = tasks ∧ net.order = (Release.after tasks net.links n).order ∧
      net.index.Numbers tasks (List.finRange n) := by
  cases hid : firstRepeat? [] (tasks.toList.map (·.id)) with
  | some id => rw [ofProject_of_repeat hid] at h; cases h
  | none =>
    have hnodup := (firstRepeat?_eq_none_iff.mp hid).1
    obtain ⟨index, hindex, heq⟩ := ofProject_of_nodup hnodup dependencies
    obtain ⟨links, hlinks, h⟩ := bind_eq_ok_iff.mp (heq ▸ h)
    cases hclosing : closingLink? links (Release.after tasks links n).blocked with
    | some link => rw [hclosing] at h; cases h
    | none =>
      rw [hclosing] at h
      cases h
      exact ⟨hnodup, hlinks, hclosing, rfl, rfl, hindex⟩

variable (h : ofProject tasks dependencies = .ok net)

include h

theorem tasks_eq : net.tasks = tasks := (ofProject_eq_ok h).2.2.2.1

/-- The index of a network tells of all of its tasks. -/
theorem numbers : net.index.Numbers tasks (List.finRange n) := (ofProject_eq_ok h).2.2.2.2.2

/-- **Different positions have different ids.** -/
theorem id_injective : Function.Injective fun i => (tasks.get i).id := by
  intro i j hij
  have hnodup := (ofProject_eq_ok h).1
  have hi : i.val < (tasks.toList.map (·.id)).length := by simp
  have hj : j.val < (tasks.toList.map (·.id)).length := by simp
  have heq : (tasks.toList.map (·.id))[i.val] = (tasks.toList.map (·.id))[j.val] := by
    simpa [Vector.get] using hij
  exact Fin.ext (hnodup.getElem_inj_iff.mp heq)

/-- A search of the tasks stops at the first one with an id, and there is no other. -/
theorem search_eq_some_iff {id : String} {i : Fin n} :
    Workplan.position? tasks id = some i ↔ (tasks.get i).id = id := by
  unfold Workplan.position?
  constructor
  · intro hi
    simpa using List.find?_some hi
  · rintro rfl
    cases hj : (List.finRange n).find? fun j => (tasks.get j).id = (tasks.get i).id with
    | none =>
      have := List.find?_eq_none.mp hj i (List.mem_finRange i)
      simp at this
    | some j =>
      have hid : (tasks.get j).id = (tasks.get i).id := by simpa using List.find?_some hj
      exact congrArg some (id_injective h hid)

theorem position?_eq_some_iff {id : String} {i : Fin n} :
    net.position? id = some i ↔ (tasks.get i).id = id := by
  rw [position?, (numbers h).position?_eq_search]
  exact search_eq_some_iff h

theorem locateBy_eq_ok_iff {id : String} {i : Fin n} :
    locateBy (Workplan.position? tasks) id = .ok i ↔ (tasks.get i).id = id := by
  rw [← search_eq_some_iff h, locateBy]
  cases Workplan.position? tasks id <;> simp

theorem resolve_eq_ok_iff {d : Dependency} {link : Link n} :
    resolve tasks d = .ok link ↔
      d.Joins tasks link.predecessor link.successor ∧ d.relation = link.relation := by
  rw [Dependency.Joins, ← locateBy_eq_ok_iff h, ← locateBy_eq_ok_iff h, resolve, resolveBy]
  obtain ⟨i, j, r⟩ := link
  cases locateBy (Workplan.position? tasks) d.predecessor with
  | error e => simp [bind, Except.bind]
  | ok i' =>
    cases locateBy (Workplan.position? tasks) d.successor with
    | error e => simp [bind, Except.bind]
    | ok j' => simp [bind, Except.bind, pure, Except.pure, and_assoc]

/-- **The links of a network are the dependencies of its project.** -/
theorem mem_links_iff {link : Link n} :
    link ∈ net.links ↔
      ∃ d ∈ dependencies, d.Joins tasks link.predecessor link.successor ∧
        d.relation = link.relation := by
  rw [mem_of_mapM_eq_ok (ofProject_eq_ok h).2.1]
  exact exists_congr fun d => and_congr_right fun _ => resolve_eq_ok_iff h

/-- Each dependency has a link. -/
theorem exists_mem_links {d : Dependency} (hd : d ∈ dependencies) :
    ∃ link ∈ net.links, d.Joins tasks link.predecessor link.successor ∧
      d.relation = link.relation := by
  obtain ⟨link, hlink, hresolve⟩ := exists_mem_of_mapM_eq_ok (ofProject_eq_ok h).2.1 hd
  exact ⟨link, hlink, (resolve_eq_ok_iff h).mp hresolve⟩

/-- The predecessors of a task are those that a dependency joins to it. -/
theorem exists_link_iff_joined {i : Fin n} {P : Fin n → Prop} :
    (∃ link ∈ net.links, link.successor = i ∧ P link.predecessor) ↔
      ∃ j, Joined tasks dependencies j i ∧ P j := by
  constructor
  · rintro ⟨link, hlink, rfl, hP⟩
    obtain ⟨d, hd, hjoins, -⟩ := (mem_links_iff h).mp hlink
    exact ⟨link.predecessor, ⟨d, hd, hjoins⟩, hP⟩
  · rintro ⟨j, ⟨d, hd, hjoins⟩, hP⟩
    exact ⟨⟨j, i, d.relation⟩, (mem_links_iff h).mpr ⟨d, hd, hjoins, rfl⟩, rfl, hP⟩

/-- Nothing is behind a task exactly if no dependency names it as the predecessor. -/
theorem outgoing_eq_nil_iff {i : Fin n} :
    net.outgoing i = [] ↔ ∀ d ∈ dependencies, d.predecessor ≠ (tasks.get i).id := by
  simp only [List.eq_nil_iff_forall_not_mem, outgoing, mem_linksOutOf, not_and]
  constructor
  · intro hnone d hd hid
    obtain ⟨link, hlink, ⟨hp, -⟩, -⟩ := exists_mem_links h hd
    exact hnone link hlink (id_injective h (hp.trans hid))
  · rintro hnone link hlink rfl
    obtain ⟨d, hd, ⟨hp, -⟩, -⟩ := (mem_links_iff h).mp hlink
    exact hnone d hd hp.symm

end Network

end Workplan
