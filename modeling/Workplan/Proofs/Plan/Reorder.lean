import Workplan.Proofs.Network.Refusal
import Workplan.Proofs.Network.Reorder
import Workplan.Proofs.Plan.Alike
import Workplan.Proofs.Plan.Schedule
import Workplan.Proofs.Plan.Walk
import Workplan.Proofs.Ranking

/-!
# The order of a project does not matter

Names and priorities only decide which of the tasks that are ready is released first, and the
order in which tasks and dependencies are given decides the rest of the order of a network. No
date depends on any of this: the plans of two projects with the same tasks and dependencies are
alike, and whether there is a plan depends on the tasks and dependencies alone.

## Main definitions

* `Timing.plain`: a timing apart from the name of its task
* `Plan.IsReordering`: the plans of two projects of the same plain tasks and dependencies
* `Error.SameCause`: errors with the same cause

## Main results

* `IsReordering.alike`: the plans of such projects are alike
* `criticalPath_eq_of_plain`: the critical path is read off plain timings
* `scheduleProject_reorder`: such projects get the same dates, or are refused for the same cause
-/

namespace Workplan

variable {n m : Nat} {tasks : Vector Task n} {tasks' : Vector Task m}
  {dependencies dependencies' : List Dependency}

/-! ## Names and priorities -/

/-- A timing without the name of its task. -/
def Timing.plain (t : Timing) : Timing := { t with taskName := "" }

/-- Plans do not look at names and priorities. -/
theorem Task.isAlike_of_plain_eq {t u : Task} (h : t.plain = u.plain) : t.IsAlike u where
  anchor_eq := (congrArg Task.anchor h :)
  duration_eq := (congrArg Task.duration h :)
  began_eq := (congrArg Task.began h :)
  ended_eq := (congrArg Task.ended h :)

/-- Neither the choice of the critical timings nor their ranking looks at names. -/
theorem criticalIds_map_plain (timings : List Timing) :
    criticalIds (timings.map Timing.plain) = criticalIds timings := by
  have hranked : ∀ a b : Timing, Timing.precedes a.plain b.plain = Timing.precedes a b :=
    fun _ _ => rfl
  rw [criticalIds, List.filter_map, ranked_map hranked, List.map_map]
  rfl

namespace Schedule

variable {s s' : Schedule}
  (h : ∀ key, (s.get? key).map Timing.plain = (s'.get? key).map Timing.plain)

include h

theorem finish?_eq_of_plain : s.finish? = s'.finish? := by
  have hfinish := congrArg (List.filterMap fun entry => entry.2.earliestFinish)
    (map_entries_eq h)
  rw [List.filterMap_map, List.filterMap_map] at hfinish
  exact congrArg List.max? hfinish

/-- **The critical path is read off plain timings.** -/
theorem criticalPath_eq_of_plain : s.criticalPath = s'.criticalPath := by
  have hplain : ∀ s : Schedule, s.criticalPath =
      criticalIds ((s.entries.map fun entry => (entry.1, entry.2.plain)).map (·.2)) := by
    intro s
    rw [criticalPath, ← criticalIds_map_plain, List.map_map, List.map_map]
    rfl
  rw [hplain s, hplain s', map_entries_eq h]

end Schedule

/-! ## Plans of reordered projects -/

namespace Plan

variable {p : Plan n} {p' : Plan m} {i : Fin n} {j : Fin m}

/-- A timing is read off the plain task. -/
theorem plain_timing_eq {t u : Task} (hcalendar : p.calendar = p'.calendar)
    (htask : t.plain = u.plain) (early late : Option Span) :
    (p.timing t early late).plain = (p'.timing u early late).plain := by
  have hdeadline : t.deadline = u.deadline := (congrArg Task.deadline htask :)
  have hslack : p.slack = p'.slack := by
    funext own span
    rw [slack, slack, hcalendar]
  have hlateBy : p.lateBy? = p'.lateBy? := by
    funext deadline finish
    rw [lateBy?, lateBy?, hcalendar]
  rw [timing, timing, hdeadline, hslack, hlateBy, Task.id_eq_of_plain_eq htask]
  rfl

/-- **Plans of reordered projects**, on the same calendar and from the same start. -/
structure IsReordering (p : Plan n) (dependencies : List Dependency) (p' : Plan m)
    (dependencies' : List Dependency) : Prop where
  project : IsReordered p.network.tasks dependencies p'.network.tasks dependencies'
  network : Network.ofProject p.network.tasks dependencies = .ok p.network
  network' : Network.ofProject p'.network.tasks dependencies' = .ok p'.network
  calendar_eq : p.calendar = p'.calendar
  projectStart_eq : p.projectStart = p'.projectStart

namespace IsReordering

variable (h : IsReordering p dependencies p' dependencies')

include h

theorem symm : IsReordering p' dependencies' p dependencies :=
  ⟨h.project.symm, h.network', h.network, h.calendar_eq.symm, h.projectStart_eq.symm⟩

/-- **The plans of reordered projects are alike.** -/
theorem alike : Alike p p' fun i j => (p.task i).plain = (p'.task j).plain where
  calendar_eq := h.calendar_eq
  projectStart_eq := h.projectStart_eq
  task := Task.isAlike_of_plain_eq
  incoming hij := by
    refine ⟨h.project.exists_incoming h.network h.network' hij, fun link' hlink' => ?_⟩
    obtain ⟨link, hlink, hp, hrelation⟩ :=
      h.project.symm.exists_incoming h.network' h.network hij.symm link' hlink'
    exact ⟨link, hlink, hp.symm, hrelation.symm⟩
  outgoing hij := by
    refine ⟨h.project.exists_outgoing h.network h.network' hij, fun link' hlink' => ?_⟩
    obtain ⟨link, hlink, hs, hrelation⟩ :=
      h.project.symm.exists_outgoing h.network' h.network hij.symm link' hlink'
    exact ⟨link, hlink, hs.symm, hrelation.symm⟩

/-! ### Dates -/

theorem early_eq (hij : (p.task i).plain = (p'.task j).plain) :
    (p.early (Shifts.none n)).get i = (p'.early (Shifts.none m)).get j := by
  apply h.alike.early_eq (Network.isOrdered_of_ofProject h.network)
    (Network.isOrdered_of_ofProject h.network') _ hij
  intro i j _
  rw [get_none, get_none]

theorem late_eq (hij : (p.task i).plain = (p'.task j).plain) (finish : Day) :
    (p.late (p.early (Shifts.none n)) finish).get i =
      (p'.late (p'.early (Shifts.none m)) finish).get j :=
  h.alike.late_eq (Network.isOrdered_of_ofProject h.network)
    (Network.isOrdered_of_ofProject h.network') h.early_eq finish hij

theorem lastFinish?_eq :
    lastFinish? (p.early (Shifts.none n)) = lastFinish? (p'.early (Shifts.none m)) := by
  apply max?_congr
  intro x
  simp only [mem_finishes]
  constructor
  · rintro ⟨i, own, hown, hx⟩
    obtain ⟨j, hij⟩ := h.project.exists_plain_eq i
    exact ⟨j, own, (h.early_eq hij).symm.trans hown, hx⟩
  · rintro ⟨j, own, hown, hx⟩
    obtain ⟨i, hij⟩ := h.project.symm.exists_plain_eq j
    exact ⟨i, own, (h.early_eq hij.symm).trans hown, hx⟩

/-! ### Schedules -/

/-- The least id is found by a ranking of the ids, in which no two of them tie. -/
theorem leastId_eq : p.leastId = p'.leastId := by
  rw [leastId, leastId, ranked_eq_of_perm isRanking_lt h.project.ids_perm]
  intro a b _ _ hab hba
  simp only [decide_eq_true_eq, String.not_lt] at hab hba
  exact String.le_antisymm hba hab

/-- Either both projects lack dates, and the same task is named, or neither does. -/
theorem baseline_eq_error_iff {e : Error} : p.baseline = .error e ↔ p'.baseline = .error e := by
  rw [baseline, schedule_eq_error_iff, baseline, schedule_eq_error_iff, h.lastFinish?_eq,
    h.leastId_eq, h.project.length_eq]

variable {s s' : Schedule}

/-- **Each entry has a counterpart.** -/
theorem exists_plain_get? (hs : p.baseline = .ok s) (hs' : p'.baseline = .ok s') {key : String}
    {t : Timing} (ht : s.get? key = some t) : ∃ t', s'.get? key = some t' ∧ t.plain = t'.plain := by
  obtain ⟨i, finish, hfinish, hid, rfl⟩ := (get?_schedule_iff h.network hs).mp ht
  obtain ⟨j, hij⟩ := h.project.exists_plain_eq i
  rw [h.lastFinish?_eq] at hfinish
  refine ⟨_, (get?_schedule_iff h.network' hs').mpr
    ⟨j, finish, hfinish, (Task.id_eq_of_plain_eq hij).symm.trans hid, rfl⟩, ?_⟩
  rw [h.early_eq hij, h.late_eq hij]
  exact plain_timing_eq h.calendar_eq hij _ _

/-- **Reordered projects have the same plain timings.** -/
theorem plain_get?_eq (hs : p.baseline = .ok s) (hs' : p'.baseline = .ok s') (key : String) :
    (s.get? key).map Timing.plain = (s'.get? key).map Timing.plain := by
  cases hkey : s.get? key with
  | some t =>
    obtain ⟨t', ht', hplain⟩ := h.exists_plain_get? hs hs' hkey
    rw [ht', Option.map_some, Option.map_some, hplain]
  | none =>
    cases hkey' : s'.get? key with
    | none => rfl
    | some t =>
      obtain ⟨t', ht', -⟩ := h.symm.exists_plain_get? hs' hs hkey'
      rw [hkey] at ht'
      cases ht'

end IsReordering

end Plan

/-! ## Schedules of reordered projects -/

/-- **Errors with the same cause.** Which of several tasks or dependencies at fault an error names
may depend on their order, but the task that has no dates is always the same. -/
inductive Error.SameCause : Error → Error → Prop
  | duplicateTask (id id' : String) : SameCause (.duplicateTask id) (.duplicateTask id')
  | unknownTask (id id' : String) : SameCause (.unknownTask id) (.unknownTask id')
  | circular (predecessor successor predecessor' successor' : String) :
      SameCause (.circular predecessor successor) (.circular predecessor' successor')
  | unschedulable (id : String) : SameCause (.unschedulable id) (.unschedulable id)

/-- Where both orders of a project have a network, they get the same dates, or none for the lack of
an anchor. -/
theorem IsReordered.schedule_eq (h : IsReordered tasks dependencies tasks' dependencies')
    {net : Network n} {net' : Network m} (hnet : Network.ofProject tasks dependencies = .ok net)
    (hnet' : Network.ofProject tasks' dependencies' = .ok net') (c : Calendar)
    (settings : Settings) :
    (∃ s s', scheduleProject c tasks dependencies settings = .ok s ∧
      scheduleProject c tasks' dependencies' settings = .ok s' ∧
      (∀ i, (s.get? (tasks.get i).id).isSome) ∧
      ∀ key, (s.get? key).map Timing.plain = (s'.get? key).map Timing.plain) ∨
    ∃ id, scheduleProject c tasks dependencies settings = .error (.unschedulable id) ∧
      scheduleProject c tasks' dependencies' settings = .error (.unschedulable id) := by
  obtain rfl := Network.tasks_eq hnet
  obtain rfl := Network.tasks_eq hnet'
  rw [Plan.scheduleProject_eq_baseline hnet, Plan.scheduleProject_eq_baseline hnet']
  have hplans : Plan.IsReordering ⟨c, net, settings.projectStart⟩ dependencies
      ⟨c, net', settings.projectStart⟩ dependencies' := ⟨h, hnet, hnet', rfl, rfl⟩
  cases hs : (⟨c, net, settings.projectStart⟩ : Plan n).baseline with
  | error e =>
    obtain ⟨-, -, rfl⟩ := Plan.schedule_eq_error_iff.mp hs
    exact Or.inr ⟨_, rfl, hplans.baseline_eq_error_iff.mp hs⟩
  | ok s =>
    cases hs' : (⟨c, net', settings.projectStart⟩ : Plan m).baseline with
    | error e =>
      rw [hplans.baseline_eq_error_iff.mpr hs'] at hs
      cases hs
    | ok s' =>
      refine Or.inl ⟨s, s', rfl, rfl, fun i => ?_, hplans.plain_get?_eq hs hs'⟩
      exact (Plan.isSome_get?_schedule hplans.network hs _).mpr ⟨i, rfl⟩

/-- **The order, the names and the priorities of a project do not change its dates**: it has the
same timings, finish and critical path in any order, or is refused for the same cause. The demands
on a project are checked one after another, and each of them holds in any order or in none. -/
theorem scheduleProject_reorder (h : IsReordered tasks dependencies tasks' dependencies')
    (c : Calendar) (settings : Settings) :
    (∃ s s', scheduleProject c tasks dependencies settings = .ok s ∧
      scheduleProject c tasks' dependencies' settings = .ok s' ∧
      (∀ i, (s.get? (tasks.get i).id).isSome) ∧
      (∀ key, (s.get? key).map Timing.plain = (s'.get? key).map Timing.plain) ∧
      s.finish? = s'.finish? ∧ s.criticalPath = s'.criticalPath) ∨
    ∃ e e', scheduleProject c tasks dependencies settings = .error e ∧
      scheduleProject c tasks' dependencies' settings = .error e' ∧ e.SameCause e' := by
  by_cases hnodup : (tasks.toList.map (·.id)).Nodup
  case neg =>
    obtain ⟨id, hnet⟩ := Network.ofProject_of_not_nodup hnodup dependencies
    obtain ⟨id', hnet'⟩ :=
      Network.ofProject_of_not_nodup (mt h.nodup_iff.mpr hnodup) dependencies'
    exact Or.inr ⟨_, _, Plan.scheduleProject_eq_error hnet, Plan.scheduleProject_eq_error hnet',
      .duplicateTask id id'⟩
  have hnodup' := h.nodup_iff.mp hnodup
  by_cases hresolved : IsResolved tasks dependencies
  case neg =>
    obtain ⟨id, hnet⟩ := Network.ofProject_of_not_isResolved hnodup hresolved
    obtain ⟨id', hnet'⟩ := Network.ofProject_of_not_isResolved hnodup'
      (mt h.isResolved_iff.mpr hresolved)
    exact Or.inr ⟨_, _, Plan.scheduleProject_eq_error hnet, Plan.scheduleProject_eq_error hnet',
      .unknownTask id id'⟩
  have hresolved' := h.isResolved_iff.mp hresolved
  by_cases hacyclic : IsAcyclic dependencies
  case neg =>
    obtain ⟨a, b, hnet⟩ := Network.ofProject_of_not_isAcyclic hnodup hresolved hacyclic
    obtain ⟨a', b', hnet'⟩ := Network.ofProject_of_not_isAcyclic hnodup' hresolved'
      (mt h.isAcyclic_iff.mpr hacyclic)
    exact Or.inr ⟨_, _, Plan.scheduleProject_eq_error hnet, Plan.scheduleProject_eq_error hnet',
      .circular a b a' b'⟩
  obtain ⟨net, hnet⟩ := Network.exists_network hnodup hresolved hacyclic
  obtain ⟨net', hnet'⟩ := Network.exists_network hnodup' hresolved' (h.isAcyclic_iff.mp hacyclic)
  rcases h.schedule_eq hnet hnet' c settings with ⟨s, s', hs, hs', hkeys, hplain⟩ |
    ⟨id, he, he'⟩
  · exact Or.inl ⟨s, s', hs, hs', hkeys, hplain, Schedule.finish?_eq_of_plain hplain,
      Schedule.criticalPath_eq_of_plain hplain⟩
  · exact Or.inr ⟨_, _, he, he', .unschedulable id⟩

namespace Sample

/-- The small project in reverse, with names and priorities, and with a dependency repeated. -/
def reversedTasks : Vector Task 3 :=
  #v[{ id := "release", name := "Release", duration := some 0, priority := 1 },
    { id := "review", name := "Review", duration := some 1 },
    { id := "draft", duration := some 3, priority := 90 }]

def reversedDependencies : List Dependency :=
  [{ predecessor := "review", successor := "release", relation := { target := .finish } },
    { predecessor := "draft", successor := "release", relation := { lag := 1 } },
    { predecessor := "review", successor := "release", relation := { target := .finish } }]

theorem isReordered_reversed :
    IsReordered Sample.tasks Sample.dependencies reversedTasks reversedDependencies where
  tasks := List.reverse_perm (reversedTasks.toList.map Task.plain)
  dependencies d := by
    simp only [Sample.dependencies, reversedDependencies, List.mem_cons, List.not_mem_nil, or_false]
    tauto

theorem scheduleProject_reorder_sample :
    IsReordered Sample.tasks Sample.dependencies reversedTasks reversedDependencies ∧
    ∃ s s', scheduleProject .standard Sample.tasks Sample.dependencies settings = .ok s ∧
      scheduleProject .standard reversedTasks reversedDependencies settings = .ok s' ∧
      (∀ i, (s.get? (Sample.tasks.get i).id).isSome) ∧
      (∀ key, (s.get? key).map Timing.plain = (s'.get? key).map Timing.plain) ∧
      s.finish? = s'.finish? ∧ s.criticalPath = s'.criticalPath := by
  refine ⟨isReordered_reversed, ?_⟩
  obtain ⟨s, hs⟩ : ∃ s,
      scheduleProject .standard Sample.tasks Sample.dependencies settings = .ok s := ⟨_, by rfl⟩
  refine (scheduleProject_reorder isReordered_reversed .standard settings).resolve_right ?_
  rintro ⟨e, -, he, -⟩
  rw [hs] at he
  cases he

end Sample

end Workplan
