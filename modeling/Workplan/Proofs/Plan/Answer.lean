import Workplan.Proofs.Network.Refusal
import Workplan.Proofs.Plan.Anchored

/-!
# The answer to a project

A project is refused for the first of its faults, in a fixed order, and otherwise it is scheduled
with one entry for each of its tasks. So the answer to a project can be told from its tasks and
dependencies, without a network and without dates.

## Main definitions

* `Schedule.Covers`: a schedule with one entry for each task, under its id
* `IsAnswer`: the answer to a project, as its faults demand it

## Main results

* `covers_schedule`: the schedule of a plan covers its tasks
* `isScheduled_schedule_iff`: which tasks have dates in a schedule
* `isAnswer_scheduleProject`: every project gets the answer that its faults demand
-/

namespace Workplan

variable {n : Nat} {tasks : Vector Task n} {dependencies : List Dependency}
  {projectStart : Option Day}

/-- **A schedule with one entry for each task**, under the id of the task. -/
structure Schedule.Covers (s : Schedule) (tasks : Vector Task n) : Prop where
  keys_perm : (s.entries.map (·.1)).Perm (tasks.toList.map (·.id))
  taskId_eq : ∀ key t, s.get? key = some t → t.taskId = key

/-- Does some path of dependencies bring dates to a task? -/
def CanGetDates (tasks : Vector Task n) (dependencies : List Dependency)
    (projectStart : Option Day) (i : Fin n) : Prop :=
  ∃ path, IsAnchoredPath tasks dependencies projectStart path i

/-- **The answer to a project**: each fault is told if those before it in this order are absent. -/
inductive IsAnswer (tasks : Vector Task n) (dependencies : List Dependency)
    (projectStart : Option Day) : Except Error Schedule → Prop
  /-- An id repeats an earlier one. -/
  | duplicateTask {id : String} (first : IsFirstRepeat (tasks.toList.map (·.id)) id) :
      IsAnswer tasks dependencies projectStart (.error (.duplicateTask id))
  /-- A dependency names a task that is not there. -/
  | unknownTask {id : String} (nodup : (tasks.toList.map (·.id)).Nodup)
      (first : IsFirstUnknown tasks dependencies id) :
      IsAnswer tasks dependencies projectStart (.error (.unknownTask id))
  /-- The dependencies have a cycle. -/
  | circular {predecessor successor : String} (nodup : (tasks.toList.map (·.id)).Nodup)
      (resolved : IsResolved tasks dependencies) (cycle : HasCycle dependencies) :
      IsAnswer tasks dependencies projectStart (.error (.circular predecessor successor))
  /-- There are tasks, but none can get dates. -/
  | unschedulable {i : Fin n} (nodup : (tasks.toList.map (·.id)).Nodup)
      (resolved : IsResolved tasks dependencies) (acyclic : ¬ HasCycle dependencies)
      (undated : ∀ j, ¬ CanGetDates tasks dependencies projectStart j)
      (least : ∀ j, (tasks.get i).id ≤ (tasks.get j).id) :
      IsAnswer tasks dependencies projectStart (.error (.unschedulable (tasks.get i).id))
  /-- There are no faults. -/
  | scheduled {s : Schedule} (nodup : (tasks.toList.map (·.id)).Nodup)
      (resolved : IsResolved tasks dependencies) (acyclic : ¬ HasCycle dependencies)
      (dated : n = 0 ∨ ∃ i, CanGetDates tasks dependencies projectStart i)
      (covers : s.Covers tasks) :
      IsAnswer tasks dependencies projectStart (.ok s)

namespace Plan

variable {p : Plan n} {shifts : Shifts n} {s : Schedule}
  (hnet : Network.ofProject p.network.tasks dependencies = .ok p.network)

include hnet

/-- **The schedule of a plan covers its tasks.** Its keys are the same as the ids, and as neither of
them repeat, there are as many. -/
theorem covers_schedule (hs : p.schedule shifts = .ok s) : s.Covers p.network.tasks where
  keys_perm := by
    have hkeys : s.entries.map (·.1) = s.timings.keys := Std.TreeMap.map_fst_toList_eq_keys
    rw [hkeys]
    refine (List.perm_ext_iff_of_nodup Std.TreeMap.nodup_keys
      (Network.ofProject_eq_ok hnet).1).mpr fun key => ?_
    rw [Std.TreeMap.mem_keys, ← Std.TreeMap.isSome_getElem?_iff_mem]
    refine (isSome_get?_schedule hnet hs key).trans ?_
    simp [Vector.mem_iff_getElem, Plan.task, Vector.get, Fin.exists_iff]
  taskId_eq key t ht := by
    obtain ⟨i, finish, -, rfl, rfl⟩ := (get?_schedule_iff hnet hs).mp ht
    rfl

/-- **Which tasks have dates in a schedule**: those that can get them, whatever the shifts. -/
theorem isScheduled_schedule_iff (hs : p.schedule shifts = .ok s) (i : Fin n) :
    s.isScheduled (p.task i).id ↔ CanGetDates p.network.tasks dependencies p.projectStart i := by
  rw [s.isScheduled_iff, early?_schedule hnet hs, ← Option.isSome_iff_exists]
  exact isSome_early_iff_exists_path hnet shifts i

/-- A plan with tasks is refused exactly if none of them can get dates, and then the least id is
named. -/
theorem schedule_eq_error_iff_undated (hn : n ≠ 0) {e : Error} : p.schedule shifts = .error e ↔
    (∀ i, ¬ CanGetDates p.network.tasks dependencies p.projectStart i) ∧
      ∃ least, e = .unschedulable (p.task least).id ∧
        ∀ i, (p.task least).id ≤ (p.task i).id := by
  have hundated : lastFinish? (p.early shifts) = none ↔
      ∀ i, ¬ CanGetDates p.network.tasks dependencies p.projectStart i := by
    rw [lastFinish?_eq_none_iff]
    refine forall_congr' fun i => ?_
    rw [CanGetDates, ← isSome_early_iff_exists_path hnet shifts i, Option.not_isSome_iff_eq_none]
  obtain ⟨⟨least, hleast⟩, hle⟩ := leastId_spec (p := p) hn
  rw [schedule_eq_error_iff, and_iff_right hn, hundated]
  refine and_congr_right fun _ => ⟨?_, ?_⟩
  · rintro rfl
    exact ⟨least, congrArg _ hleast, fun i => hleast ▸ hle i⟩
  · rintro ⟨i, rfl, hi⟩
    refine congrArg _ (String.le_antisymm (hle i) ?_)
    rw [hleast]
    exact hi least

/-- A plan with tasks has a schedule only if some task can get dates. -/
theorem exists_canGetDates (hn : n ≠ 0) (hs : p.schedule shifts = .ok s) :
    ∃ i, CanGetDates p.network.tasks dependencies p.projectStart i := by
  rcases schedule_eq_ok_iff.mp hs with ⟨hzero, -⟩ | ⟨-, finish, hfinish, -⟩
  · exact absurd hzero hn
  · obtain ⟨⟨i, own, hown, -⟩, -⟩ := lastFinish?_eq_some_iff.mp hfinish
    exact ⟨i, (isSome_early_iff_exists_path hnet shifts i).mp
      (Option.isSome_iff_exists.mpr ⟨own, hown⟩)⟩

/-- **The baseline of a plan whose network has been made is the answer its tasks call for**: dates
when some task can get them, else the refusal that names the least task id. -/
theorem isAnswer_baseline :
    IsAnswer p.network.tasks dependencies p.projectStart p.baseline := by
  obtain ⟨hnodup, hresolved, hacyclic⟩ := Network.exists_network_iff.mp ⟨p.network, hnet⟩
  have hcycle := not_hasCycle_of_isAcyclic hacyclic
  cases hs : p.baseline with
  | error e =>
    have hn := (schedule_eq_error_iff.mp hs).1
    obtain ⟨hundated, least, rfl, hleast⟩ := (schedule_eq_error_iff_undated hnet hn).mp hs
    exact .unschedulable hnodup hresolved hcycle hundated hleast
  | ok s =>
    refine .scheduled hnodup hresolved hcycle ?_ (covers_schedule hnet hs)
    by_cases hn : n = 0
    · exact Or.inl hn
    · exact Or.inr (exists_canGetDates hnet hn hs)

end Plan

/-- **Every project gets the answer that its faults demand.** A network is refused for one of the
first three faults and without those before it; with a network, only dates can be missing. -/
theorem isAnswer_scheduleProject (c : Calendar) (tasks : Vector Task n)
    (dependencies : List Dependency) (settings : Settings) :
    IsAnswer tasks dependencies settings.projectStart
      (scheduleProject c tasks dependencies settings) := by
  cases hnet : Network.ofProject tasks dependencies with
  | error e =>
    rw [Plan.scheduleProject_eq_error hnet]
    rcases Network.ofProject_eq_error hnet with ⟨id, rfl, hfirst⟩ |
      ⟨hnodup, ⟨id, rfl, hfirst⟩ | ⟨hresolved, a, b, rfl, hleads, hreaches⟩⟩
    · exact .duplicateTask hfirst
    · exact .unknownTask hnodup hfirst
    · exact .circular hnodup hresolved ⟨a, .head' hleads hreaches⟩
  | ok net =>
    rw [Plan.scheduleProject_eq_baseline hnet]
    obtain rfl := Network.tasks_eq hnet
    exact Plan.isAnswer_baseline (p := ⟨c, net, settings.projectStart⟩) hnet

end Workplan
