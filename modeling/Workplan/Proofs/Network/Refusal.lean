import Workplan.Proofs.Network.Cycle

/-!
# For what a network is refused

The checks on the tasks and dependencies of a project are made one after another, and each looks
for the first fault: an id that repeats one in front of it, then a reference to a task that is not
there, the predecessor of a dependency before its successor, then a cycle.

## Main definitions

* `IsFirstRepeat`: the first entry of a list that equals one in front of it
* `references`, `IsFirstUnknown`: the ids that dependencies name, and the first without a task

## Main results

* `ofProject_eq_error`: for which fault a network is refused
* `ofProject_of_not_nodup`, `ofProject_of_not_isResolved`, `ofProject_of_not_isAcyclic`: a project
  is refused for the first demand that it fails
-/

namespace Workplan

variable {n : Nat} {tasks : Vector Task n} {dependencies : List Dependency}

/-! ## Repeated ids -/

/-- The first entry of a list that equals one in front of it. -/
def IsFirstRepeat (l : List String) (id : String) : Prop :=
  ∃ front back, l = front ++ id :: back ∧ front.Nodup ∧ id ∈ front

theorem IsFirstRepeat.not_nodup {l : List String} {id : String} (h : IsFirstRepeat l id) :
    ¬ l.Nodup := by
  obtain ⟨front, back, rfl, -, hid⟩ := h
  exact fun hnodup => List.disjoint_of_nodup_append hnodup hid List.mem_cons_self

/-- A repeat that is found has none in front of it. It equals an entry there, or one that was seen
before the list: the search takes each entry that it passes to those it has seen. -/
theorem firstRepeat?_eq_some {seen l : List String} {id : String}
    (h : firstRepeat? seen l = some id) :
    ∃ front back, l = front ++ id :: back ∧ front.Nodup ∧ (∀ x ∈ front, x ∉ seen) ∧
      (id ∈ seen ∨ id ∈ front) := by
  induction l generalizing seen with
  | nil => cases h
  | cons a rest ih =>
    rw [firstRepeat?] at h
    split at h
    · next ha =>
      cases h
      exact ⟨[], rest, rfl, .nil, List.forall_mem_nil _, Or.inl ha⟩
    · next ha =>
      obtain ⟨front, back, rfl, hnodup, hfront, hid⟩ := ih h
      refine ⟨a :: front, back, rfl, List.nodup_cons.mpr ⟨?_, hnodup⟩, ?_, ?_⟩
      · exact fun hmem => hfront a hmem List.mem_cons_self
      · rintro x (_ | ⟨_, hx⟩)
        · exact ha
        · exact fun hseen => hfront x hx (List.mem_cons_of_mem _ hseen)
      · simp only [List.mem_cons] at hid ⊢
        tauto

theorem isFirstRepeat_of_firstRepeat? {l : List String} {id : String}
    (h : firstRepeat? [] l = some id) : IsFirstRepeat l id := by
  obtain ⟨front, back, hl, hnodup, -, hid⟩ := firstRepeat?_eq_some h
  exact ⟨front, back, hl, hnodup, hid.resolve_left (List.not_mem_nil)⟩

/-! ## Unknown ids -/

/-- The ids that dependencies name, predecessor before successor. -/
def references (dependencies : List Dependency) : List String :=
  dependencies.flatMap fun d => [d.predecessor, d.successor]

/-- The first id named by a dependency that is no task's. -/
def IsFirstUnknown (tasks : Vector Task n) (dependencies : List Dependency) (id : String) : Prop :=
  ∃ front back, references dependencies = front ++ id :: back ∧
    (∀ known ∈ front, ∃ i, (tasks.get i).id = known) ∧ ∀ i, (tasks.get i).id ≠ id

theorem IsFirstUnknown.not_isResolved {id : String} (h : IsFirstUnknown tasks dependencies id) :
    ¬ IsResolved tasks dependencies := by
  obtain ⟨front, back, hreferences, -, hne⟩ := h
  intro hresolved
  have hmem : id ∈ references dependencies :=
    hreferences ▸ List.mem_append_right _ List.mem_cons_self
  obtain ⟨d, hd, hid⟩ := List.mem_flatMap.mp hmem
  obtain ⟨i, j, hp, hs⟩ := hresolved d hd
  rcases List.mem_pair.mp hid with rfl | rfl
  · exact hne i hp
  · exact hne j hs

namespace Network

/-- The tasks that a resolved dependency names are there. -/
theorem forall_references_of_resolve_eq_ok {front : List Dependency}
    (h : ∀ d ∈ front, ∃ link, resolve tasks d = .ok link) :
    ∀ known ∈ references front, ∃ i, (tasks.get i).id = known := by
  intro known hknown
  obtain ⟨d, hd, hmem⟩ := List.mem_flatMap.mp hknown
  obtain ⟨link, hlink⟩ := h d hd
  obtain ⟨hp, hs⟩ := joins_of_resolve_eq_ok hlink
  rcases List.mem_pair.mp hmem with rfl | rfl
  · exact ⟨_, hp⟩
  · exact ⟨_, hs⟩

/-- **The first reference to a task that is not there is refused.** Of the two ids that a dependency
names, the predecessor is looked up first. -/
theorem isFirstUnknown_of_mapM_eq_error {e : Error}
    (h : dependencies.mapM (resolve tasks) = .error e) :
    ∃ id, e = .unknownTask id ∧ IsFirstUnknown tasks dependencies id := by
  obtain ⟨front, d, back, rfl, hfront, hd⟩ := exists_first_of_mapM_eq_error h
  have hknown := forall_references_of_resolve_eq_ok hfront
  rcases bind_eq_error_iff.mp hd with hp | ⟨i, hp, hd⟩
  · obtain ⟨rfl, hne⟩ := locateBy_eq_error hp
    exact ⟨_, rfl, references front, d.successor :: references back, by simp [references], hknown,
      hne⟩
  · rcases bind_eq_error_iff.mp hd with hs | ⟨j, -, hd⟩
    · obtain ⟨rfl, hne⟩ := locateBy_eq_error hs
      refine ⟨_, rfl, references front ++ [d.predecessor], references back, by simp [references],
        List.forall_mem_append.mpr ⟨hknown, List.forall_mem_singleton.mpr ?_⟩, hne⟩
      exact ⟨i, id_of_locateBy_eq_ok hp⟩
    · cases hd

/-! ## Refusal -/

/-- **For which fault a network is refused.** With distinct ids, either a dependency is not
resolved, or a task is still blocked behind the last release. -/
theorem ofProject_eq_error {e : Error} (h : ofProject tasks dependencies = .error e) :
    (∃ id, e = .duplicateTask id ∧ IsFirstRepeat (tasks.toList.map (·.id)) id) ∨
      (tasks.toList.map (·.id)).Nodup ∧
        ((∃ id, e = .unknownTask id ∧ IsFirstUnknown tasks dependencies id) ∨
          IsResolved tasks dependencies ∧ ∃ predecessor successor,
            e = .circular predecessor successor ∧ LeadsTo dependencies predecessor successor ∧
              Relation.ReflTransGen (LeadsTo dependencies) successor predecessor) := by
  by_cases hnodup : (tasks.toList.map (·.id)).Nodup
  · obtain ⟨_, -, heq⟩ := ofProject_of_nodup hnodup dependencies
    rw [heq] at h
    refine Or.inr ⟨hnodup, ?_⟩
    rcases bind_eq_error_iff.mp h with hlinks | ⟨links, hlinks, h⟩
    · exact Or.inl (isFirstUnknown_of_mapM_eq_error hlinks)
    · cases hclosing : closingLink? links (Release.after tasks links n).blocked with
      | none => rw [hclosing] at h; cases h
      | some link =>
        rw [hclosing] at h
        cases h
        obtain ⟨hleads, hreaches⟩ := exists_cycle_of_closingLink? hlinks hclosing
        exact Or.inr ⟨isResolved_of_mapM_eq_ok hlinks, _, _, rfl, hleads, hreaches⟩
  · cases hid : firstRepeat? [] (tasks.toList.map (·.id)) with
    | none => exact absurd (firstRepeat?_eq_none_iff.mp hid).1 hnodup
    | some id =>
      rw [ofProject_of_repeat hid] at h
      cases h
      exact Or.inl ⟨id, rfl, isFirstRepeat_of_firstRepeat? hid⟩

/-- Tasks that share an id are refused first. -/
theorem ofProject_of_not_nodup (h : ¬ (tasks.toList.map (·.id)).Nodup)
    (dependencies : List Dependency) :
    ∃ id, ofProject tasks dependencies = .error (.duplicateTask id) := by
  cases hnet : ofProject tasks dependencies with
  | ok net => exact absurd (ofProject_eq_ok hnet).1 h
  | error e =>
    rcases ofProject_eq_error hnet with ⟨id, rfl, -⟩ | ⟨hnodup, -⟩
    · exact ⟨id, rfl⟩
    · exact absurd hnodup h

section Demands

variable (hnodup : (tasks.toList.map (·.id)).Nodup)

include hnodup

/-- Dependencies on tasks that are not there are refused next. -/
theorem ofProject_of_not_isResolved (h : ¬ IsResolved tasks dependencies) :
    ∃ id, ofProject tasks dependencies = .error (.unknownTask id) := by
  cases hnet : ofProject tasks dependencies with
  | ok net => exact absurd (exists_network_iff.mp ⟨net, hnet⟩).2.1 h
  | error e =>
    rcases ofProject_eq_error hnet with ⟨id, -, hfirst⟩ | ⟨-, ⟨id, rfl, -⟩ | ⟨hresolved, -⟩⟩
    · exact absurd hnodup hfirst.not_nodup
    · exact ⟨id, rfl⟩
    · exact absurd hresolved h

/-- Cycles are refused last. -/
theorem ofProject_of_not_isAcyclic (hresolved : IsResolved tasks dependencies)
    (h : ¬ IsAcyclic dependencies) :
    ∃ predecessor successor,
      ofProject tasks dependencies = .error (.circular predecessor successor) := by
  cases hnet : ofProject tasks dependencies with
  | ok net => exact absurd (isAcyclic_of_ofProject hnet) h
  | error e =>
    rcases ofProject_eq_error hnet with ⟨id, -, hfirst⟩ | ⟨-, ⟨id, -, hfirst⟩ | ⟨-, a, b, rfl, -⟩⟩
    · exact absurd hnodup hfirst.not_nodup
    · exact absurd hresolved hfirst.not_isResolved
    · exact ⟨a, b, rfl⟩

/-- Without a cycle nothing is left to refuse. -/
theorem exists_network_of_not_hasCycle (hresolved : IsResolved tasks dependencies)
    (h : ¬ HasCycle dependencies) : ∃ net, ofProject tasks dependencies = .ok net := by
  cases hnet : ofProject tasks dependencies with
  | ok net => exact ⟨net, rfl⟩
  | error e =>
    rcases ofProject_eq_error hnet with
      ⟨id, -, hfirst⟩ | ⟨-, ⟨id, -, hfirst⟩ | ⟨-, a, b, -, hleads, hreaches⟩⟩
    · exact absurd hnodup hfirst.not_nodup
    · exact absurd hresolved hfirst.not_isResolved
    · exact absurd ⟨a, .head' hleads hreaches⟩ h

end Demands

end Network

end Workplan
