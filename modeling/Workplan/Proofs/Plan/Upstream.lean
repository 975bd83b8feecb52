import Mathlib.Data.Set.Defs
import Workplan.Proofs.Plan.Alike
import Workplan.Proofs.Plan.Schedule
import Workplan.Proofs.Plan.Walk

/-!
# Early dates come from upstream

The early dates of a task are propagated to it along its incoming dependencies, so they are decided
by the task and all that is upstream of it. Two projects may differ in everything else: in other
tasks and dependencies, in the order of either, and in names and priorities. In the two networks a
task has another position and another place in the order, but what leads to it is the same, and so
the two plans are alike around the tasks on which the projects agree.

## Main definitions

* `AgreeOn`: projects that agree on some tasks and on all that is upstream of these

## Main results

* `AgreeOn.earlyAlike`: the plans of such projects are alike around those tasks
* `early_dates_agreeOn`: and give them the same early dates
-/

namespace Workplan

variable {n m : Nat} {ids : Set String} {tasks : Vector Task n} {tasks' : Vector Task m}
  {dependencies dependencies' : List Dependency}

/-- **Projects that agree on some tasks and on all that is upstream of these.** The tasks are in
both projects with the same planning data, the same dependencies lead to them, and these come from
tasks among them. -/
structure AgreeOn (ids : Set String) (tasks : Vector Task n) (dependencies : List Dependency)
    (tasks' : Vector Task m) (dependencies' : List Dependency) : Prop where
  task : ∀ id ∈ ids, ∃ i j, (tasks.get i).id = id ∧ (tasks'.get j).id = id ∧
    (tasks.get i).IsAlike (tasks'.get j)
  mem_dependencies_iff : ∀ d, d.successor ∈ ids → (d ∈ dependencies ↔ d ∈ dependencies')
  predecessor_mem : ∀ d ∈ dependencies, d.successor ∈ ids → d.predecessor ∈ ids

namespace AgreeOn

variable (h : AgreeOn ids tasks dependencies tasks' dependencies')

include h

theorem symm : AgreeOn ids tasks' dependencies' tasks dependencies where
  task id hid := by
    obtain ⟨i, j, hi, hj, halike⟩ := h.task id hid
    exact ⟨j, i, hj, hi, halike.symm⟩
  mem_dependencies_iff d hs := (h.mem_dependencies_iff d hs).symm
  predecessor_mem d hd hs := h.predecessor_mem d ((h.mem_dependencies_iff d hs).mpr hd) hs

variable {net : Network n} {net' : Network m} {i : Fin n} {j : Fin m}
  (hnet : Network.ofProject tasks dependencies = .ok net)
  (hnet' : Network.ofProject tasks' dependencies' = .ok net')

include hnet hnet'

/-- A task that the projects agree on has the same planning data in both, where no other task has
its id. -/
theorem isAlike (hi : (tasks.get i).id ∈ ids) (hij : (tasks.get i).id = (tasks'.get j).id) :
    (tasks.get i).IsAlike (tasks'.get j) := by
  obtain ⟨i', j', hi', hj', halike⟩ := h.task _ hi
  obtain rfl := Network.id_injective hnet hi'
  obtain rfl := Network.id_injective hnet' (hj'.trans hij)
  exact halike

/-- **A link to a task that the projects agree on has a counterpart**, from another such task. -/
theorem exists_incoming (hi : (tasks.get i).id ∈ ids)
    (hij : (tasks.get i).id = (tasks'.get j).id) :
    ∀ link ∈ net.incoming i, ∃ link' ∈ net'.incoming j,
      ((tasks.get link.predecessor).id ∈ ids ∧
        (tasks.get link.predecessor).id = (tasks'.get link'.predecessor).id) ∧
      link.relation = link'.relation := by
  intro link hlink
  obtain ⟨hmem, rfl⟩ := mem_linksInto.mp hlink
  obtain ⟨d, hd, ⟨hp, hs⟩, hrelation⟩ := (Network.mem_links_iff hnet).mp hmem
  rw [hs] at hi hij
  obtain ⟨link', hlink', ⟨hp', hs'⟩, hrelation'⟩ :=
    Network.exists_mem_links hnet' ((h.mem_dependencies_iff d hi).mp hd)
  have hj : link'.successor = j := Network.id_injective hnet' (hs'.trans hij)
  exact ⟨link', mem_linksInto.mpr ⟨hlink', hj⟩,
    ⟨hp ▸ h.predecessor_mem d hd hi, hp.trans hp'.symm⟩, hrelation.symm.trans hrelation'⟩

end AgreeOn

/-- **The plans of the two projects are alike around the tasks that they agree on.** -/
theorem AgreeOn.earlyAlike {p : Plan n} {p' : Plan m}
    (h : AgreeOn ids p.network.tasks dependencies p'.network.tasks dependencies')
    (hnet : Network.ofProject p.network.tasks dependencies = .ok p.network)
    (hnet' : Network.ofProject p'.network.tasks dependencies' = .ok p'.network)
    (hcalendar : p.calendar = p'.calendar) (hstart : p.projectStart = p'.projectStart) :
    p.EarlyAlike p' fun i j => (p.task i).id ∈ ids ∧ (p.task i).id = (p'.task j).id where
  calendar_eq := hcalendar
  projectStart_eq := hstart
  task hij := h.isAlike hnet hnet' hij.1 hij.2
  incoming := by
    rintro i j ⟨hi, hij⟩
    refine ⟨h.exists_incoming hnet hnet' hi hij, fun link' hlink' => ?_⟩
    obtain ⟨link, hlink, ⟨hp, hpred⟩, hrelation⟩ :=
      h.symm.exists_incoming hnet' hnet (hij ▸ hi) hij.symm link' hlink'
    exact ⟨link, hlink, ⟨hpred ▸ hp, hpred.symm⟩, hrelation.symm⟩

/-- **Early dates are decided by what is upstream.** Tasks on which two projects agree, together
with all that is upstream of them, get the same early dates in both, or none in either. -/
theorem early_dates_agreeOn (h : AgreeOn ids tasks dependencies tasks' dependencies')
    {c : Calendar} {settings settings' : Settings} {s s' : Schedule}
    (hstart : settings.projectStart = settings'.projectStart)
    (hs : scheduleProject c tasks dependencies settings = .ok s)
    (hs' : scheduleProject c tasks' dependencies' settings' = .ok s') :
    ∀ id ∈ ids, ∃ t t', s.get? id = some t ∧ s'.get? id = some t' ∧
      t.earliestStart = t'.earliestStart ∧ t.earliestFinish = t'.earliestFinish := by
  intro id hid
  obtain ⟨p, hp, hbase⟩ := Plan.scheduleProject_eq_ok_iff.mp hs
  obtain ⟨p', hp', hbase'⟩ := Plan.scheduleProject_eq_ok_iff.mp hs'
  obtain ⟨hc, hnet, hpstart⟩ := Plan.ofProject_eq_ok hp
  obtain ⟨hc', hnet', hpstart'⟩ := Plan.ofProject_eq_ok hp'
  obtain rfl := Network.tasks_eq hnet
  obtain rfl := Network.tasks_eq hnet'
  -- the task has a position in each of the networks, and is shifted in neither
  obtain ⟨i, j, rfl, hj, -⟩ := h.task id hid
  have hearly : (p.early (Shifts.none n)).get i = (p'.early (Shifts.none m)).get j := by
    have halike := h.earlyAlike hnet hnet' (hc.trans hc'.symm)
      (hpstart.trans (hstart.trans hpstart'.symm))
    refine halike.early_eq (Network.isOrdered_of_ofProject hnet)
      (Network.isOrdered_of_ofProject hnet') (fun _ => ?_) ⟨hid, hj.symm⟩
    rw [Plan.get_none, Plan.get_none]
  obtain ⟨finish, -, hget⟩ := Plan.get?_schedule hnet hbase i
  obtain ⟨finish', -, hget'⟩ := Plan.get?_schedule hnet' hbase' j
  rw [Plan.task, hj] at hget'
  exact ⟨_, _, hget, hget', congrArg (Option.map Span.start) hearly,
    congrArg (Option.map Span.finish) hearly⟩

/-! The small project can be part of a larger one, in which the release is followed by a party and
a cover is designed first: none of this is upstream of the release. -/

namespace Sample

def largerTasks : Vector Task 5 :=
  #v[{ id := "party", duration := some 1, anchor := some monday },
    { id := "release", name := "Release", duration := some 0 },
    { id := "review", duration := some 1, priority := 1 },
    { id := "cover", duration := some 20, ended := some monday },
    { id := "draft", duration := some 3 }]

def largerDependencies : List Dependency :=
  [{ predecessor := "release", successor := "party", relation := { lag := -2 } },
    { predecessor := "review", successor := "release", relation := { target := .finish } },
    { predecessor := "cover", successor := "party" },
    { predecessor := "draft", successor := "release", relation := { lag := 1 } }]

/-- The tasks of the small project. -/
def shared : Set String := {"draft", "review", "release"}

theorem agreeOn_larger :
    AgreeOn shared Sample.tasks Sample.dependencies largerTasks largerDependencies where
  task := by
    rintro _ (rfl | rfl | rfl)
    · exact ⟨0, 4, rfl, rfl, rfl, rfl, rfl, rfl⟩
    · exact ⟨1, 2, rfl, rfl, rfl, rfl, rfl, rfl⟩
    · exact ⟨2, 1, rfl, rfl, rfl, rfl, rfl, rfl⟩
  mem_dependencies_iff d hs := by
    simp only [Sample.dependencies, largerDependencies, List.mem_cons, List.not_mem_nil, or_false]
    constructor
    · tauto
    · -- the other two dependencies lead to the party
      rintro (rfl | h | rfl | h)
      · simp [shared] at hs
      · exact Or.inr h
      · simp [shared] at hs
      · exact Or.inl h
  predecessor_mem := by
    simp [Sample.dependencies, shared]

theorem early_dates_agreeOn_sample :
    AgreeOn shared Sample.tasks Sample.dependencies largerTasks largerDependencies ∧
    ∃ s s', scheduleProject .standard Sample.tasks Sample.dependencies settings = .ok s ∧
      scheduleProject .standard largerTasks largerDependencies settings = .ok s' ∧
      ∀ id ∈ shared, ∃ t t', s.get? id = some t ∧ s'.get? id = some t' ∧
        t.earliestStart = t'.earliestStart ∧ t.earliestFinish = t'.earliestFinish := by
  obtain ⟨s, hs⟩ : ∃ s,
      scheduleProject .standard Sample.tasks Sample.dependencies settings = .ok s := ⟨_, by rfl⟩
  obtain ⟨s', hs'⟩ : ∃ s',
      scheduleProject .standard largerTasks largerDependencies settings = .ok s' := ⟨_, by rfl⟩
  exact ⟨agreeOn_larger, s, s', hs, hs', early_dates_agreeOn agreeOn_larger rfl hs hs'⟩

end Sample

end Workplan
