import Workplan.Proofs.Plan.Answer
import Workplan.Proofs.Shift.Effect

/-!
# The answer to a shift by hand

A shift by hand is refused for the first of its faults, in a fixed order: those of the project,
then those of what is asked, then those of the schedule that the shift starts from. After these no
fault is left for the schedule with the shift put in, as shifts do not change which tasks get
dates, however long they are and whichever way they go. So the answer to a shift can be told from
the project and what is asked, and a shift is either carried out as a whole or not at all.

## Main definitions

* `IsNetworkFault`, `IsSound`: what keeps a project from having a network, and that nothing does
* `MayShift`: a shift that is not refused for what is asked
* `IsShiftAnswer`: the answer to a shift by hand, as the faults demand it

## Main results

* `Plan.acceptShift_eq_error_iff`, `Plan.shiftBase_eq_error_iff`, `Plan.shiftTask_eq_error_iff`: for
  what a shift of a task is refused
* `Plan.isScheduled_congr`: shifts do not change which tasks are scheduled
* `MayShift.exists_shifted`: where none of the faults is there, the shift is carried out
* `shiftInProject_eq_iff`: every shift by hand gets the answer that its faults demand
-/

namespace Workplan

variable {n : ℕ} {c : Calendar} {tasks : Vector Task n} {dependencies : List Dependency}
  {settings : Settings} {id reason : String} {days : ℤ}

/-- What keeps a project from having a network. -/
inductive IsNetworkFault (tasks : Vector Task n) (dependencies : List Dependency) : Error → Prop
  /-- An id repeats an earlier one. -/
  | duplicateTask {repeated : String} (first : IsFirstRepeat (tasks.toList.map (·.id)) repeated) :
      IsNetworkFault tasks dependencies (.duplicateTask repeated)
  /-- A dependency names a task that is not there. -/
  | unknownTask {missing : String} (nodup : (tasks.toList.map (·.id)).Nodup)
      (first : IsFirstUnknown tasks dependencies missing) :
      IsNetworkFault tasks dependencies (.unknownTask missing)
  /-- A dependency lies on a cycle. -/
  | circular {predecessor successor : String} (nodup : (tasks.toList.map (·.id)).Nodup)
      (resolved : IsResolved tasks dependencies)
      (leads : LeadsTo dependencies predecessor successor)
      (reaches : Relation.ReflTransGen (LeadsTo dependencies) successor predecessor) :
      IsNetworkFault tasks dependencies (.circular predecessor successor)

/-- A project without any of these faults. -/
structure IsSound (tasks : Vector Task n) (dependencies : List Dependency) : Prop where
  nodup : (tasks.toList.map (·.id)).Nodup
  resolved : IsResolved tasks dependencies
  acyclic : ¬ HasCycle dependencies

/-- A shift that is not refused for what is asked: the project is sound, the task is known and has
no recorded days, and it is to be moved. -/
structure MayShift (tasks : Vector Task n) (dependencies : List Dependency) (i : Fin n)
    (id : String) (days : ℤ) : Prop where
  sound : IsSound tasks dependencies
  known : (tasks.get i).id = id
  moving : days ≠ 0
  unrecorded : (tasks.get i).IsUnrecorded

/-- **The answer to a shift by hand**: each fault is told if those before it in this order are
absent. -/
inductive IsShiftAnswer (c : Calendar) (tasks : Vector Task n) (dependencies : List Dependency)
    (settings : Settings) (id : String) (days : ℤ) (reason : String) :
    Except Error (Schedule × ShiftRecord) → Prop
  /-- The project has no network. -/
  | refused {e : Error} (network : Network.ofProject tasks dependencies = .error e)
      (fault : IsNetworkFault tasks dependencies e) :
      IsShiftAnswer c tasks dependencies settings id days reason (.error e)
  /-- There is no such task. -/
  | unknownTask (sound : IsSound tasks dependencies) (unknown : ∀ i, (tasks.get i).id ≠ id) :
      IsShiftAnswer c tasks dependencies settings id days reason (.error (.unknownTask id))
  /-- The task is not to be moved. -/
  | emptyShift {i : Fin n} (sound : IsSound tasks dependencies) (known : (tasks.get i).id = id)
      (still : days = 0) :
      IsShiftAnswer c tasks dependencies settings id days reason (.error (.emptyShift id))
  /-- The task has a recorded start or end. -/
  | shiftOfRecorded {i : Fin n} {since : Day} (sound : IsSound tasks dependencies)
      (known : (tasks.get i).id = id) (moving : days ≠ 0)
      (recorded : ((tasks.get i).began <|> (tasks.get i).ended) = some since) :
      IsShiftAnswer c tasks dependencies settings id days reason
        (.error (.shiftOfRecorded id since))
  /-- No task can get dates. -/
  | undatedProject {i least : Fin n} (may : MayShift tasks dependencies i id days)
      (undated : ∀ j, ¬ CanGetDates tasks dependencies settings.projectStart j)
      (le : ∀ j, (tasks.get least).id ≤ (tasks.get j).id) :
      IsShiftAnswer c tasks dependencies settings id days reason
        (.error (.unschedulable (tasks.get least).id))
  /-- Other tasks can get dates, but this one cannot. -/
  | undatedTask {i j : Fin n} (may : MayShift tasks dependencies i id days)
      (dated : CanGetDates tasks dependencies settings.projectStart j)
      (undated : ¬ CanGetDates tasks dependencies settings.projectStart i) :
      IsShiftAnswer c tasks dependencies settings id days reason (.error (.unschedulable id))
  /-- The shift is carried out, and its record tells all dates of the task. -/
  | shifted {i : Fin n} {p : Plan n} {first second : Schedule} {old new : Span}
      (may : MayShift tasks dependencies i id days)
      (dated : CanGetDates tasks dependencies settings.projectStart i)
      (plan : Plan.ofProject c tasks dependencies settings = .ok p)
      (baseline : p.baseline = .ok first)
      (recalculated : p.schedule ((Shifts.none n).add i days) = .ok second)
      (isScheduled_eq : ∀ key, second.isScheduled key = first.isScheduled key)
      (old_eq : first.early? id = some old) (new_eq : second.early? id = some new) :
      IsShiftAnswer c tasks dependencies settings id days reason (.ok (second,
        { taskId := id
          taskName := (tasks.get i).name
          cause := none
          days := days
          oldStart := some old.start
          oldFinish := some old.finish
          newStart := some new.start
          newFinish := some new.finish
          reason := if reason = "" then Plan.defaultReason else reason }))

/-! ## Faults of the project -/

theorem Network.isNetworkFault_of_ofProject {e : Error}
    (h : Network.ofProject tasks dependencies = .error e) :
    IsNetworkFault tasks dependencies e := by
  rcases ofProject_eq_error h with ⟨repeated, rfl, hfirst⟩ |
    ⟨hnodup, ⟨missing, rfl, hfirst⟩ | ⟨hresolved, a, b, rfl, hleads, hreaches⟩⟩
  · exact .duplicateTask hfirst
  · exact .unknownTask hnodup hfirst
  · exact .circular hnodup hresolved hleads hreaches

theorem Network.isSound_of_ofProject {net : Network n}
    (h : Network.ofProject tasks dependencies = .ok net) : IsSound tasks dependencies := by
  obtain ⟨hnodup, hresolved, hacyclic⟩ := exists_network_iff.mp ⟨net, h⟩
  exact ⟨hnodup, hresolved, not_hasCycle_of_isAcyclic hacyclic⟩

/-- A sound project has a plan, which a shift by hand starts from. -/
theorem IsSound.exists_plan (h : IsSound tasks dependencies) (c : Calendar)
    (settings : Settings) :
    ∃ p : Plan n, Plan.ofProject c tasks dependencies settings = .ok p ∧
      Network.ofProject p.network.tasks dependencies = .ok p.network ∧ p.network.tasks = tasks ∧
      p.projectStart = settings.projectStart := by
  obtain ⟨net, hnet⟩ := Network.exists_network_of_not_hasCycle h.nodup h.resolved h.acyclic
  obtain rfl := Network.tasks_eq hnet
  exact ⟨_, Plan.ofProject_of_network hnet, hnet, rfl, rfl⟩

theorem shiftInProject_eq_shiftTask {p : Plan n}
    (hp : Plan.ofProject c tasks dependencies settings = .ok p) :
    shiftInProject c tasks dependencies settings id days reason = p.shiftTask id days reason := by
  rw [shiftInProject, hp]
  rfl

namespace Plan

variable {p : Plan n} {i : Fin n} {s : Schedule} {shifts shifts' : Shifts n} {e : Error}

/-! ## Faults of the shift -/

/-- **What is refused before anything is scheduled.** -/
theorem acceptShift_eq_error_iff : p.acceptShift id days = .error e ↔
    p.network.position? id = none ∧ e = .unknownTask id ∨
      ∃ i, p.network.position? id = some i ∧
        (days = 0 ∧ e = .emptyShift id ∨
          days ≠ 0 ∧ ∃ since, ((p.task i).began <|> (p.task i).ended) = some since ∧
            e = .shiftOfRecorded id since) := by
  unfold acceptShift
  cases p.network.position? id with
  | none => simp [eq_comm]
  | some i =>
    simp only [reduceCtorEq, false_and, false_or, Option.some.injEq, exists_eq_left']
    by_cases hdays : days = 0
    · simp [hdays, eq_comm]
    · rw [if_neg hdays]
      split
      · next since hsince =>
        rw [hsince]
        simp [hdays, eq_comm]
      · next hnone =>
        rw [hnone]
        simp [hdays]

/-- **What is refused before the shift is put in**: a project that cannot be scheduled, and a task
without a start. -/
theorem shiftBase_eq_error_iff : p.shiftBase id = .error e ↔
    p.baseline = .error e ∨
      ∃ s, p.baseline = .ok s ∧ (s.get? id).bind (·.earliestStart) = none ∧
        e = .unschedulable id := by
  rw [shiftBase, bind_eq_error_iff]
  refine or_congr_right (exists_congr fun s => and_congr_right fun _ => ?_)
  cases (s.get? id).bind (·.earliestStart) with
  | none =>
    change Except.error (.unschedulable id) = .error e ↔ _
    rw [Except.error.injEq, and_iff_right rfl, eq_comm]
  | some start =>
    change Except.ok s = .error e ↔ _
    simp

theorem shiftTask_eq_error_iff : p.shiftTask id days reason = .error e ↔
    p.acceptShift id days = .error e ∨
      ∃ i, p.acceptShift id days = .ok i ∧
        (p.shiftBase id = .error e ∨
          ∃ s, p.shiftBase id = .ok s ∧ p.schedule ((Shifts.none n).add i days) = .error e) := by
  simp only [shiftTask, bind_eq_error_iff, pure, Except.pure, reduceCtorEq, and_false, exists_false,
    or_false]

section Schedules

variable (hnet : Network.ofProject p.network.tasks dependencies = .ok p.network)

include hnet

/-- **Shifts do not change which tasks are scheduled.** -/
theorem isScheduled_congr {s' : Schedule} (hs : p.schedule shifts = .ok s)
    (hs' : p.schedule shifts' = .ok s') (key : String) :
    s'.isScheduled key = s.isScheduled key := by
  rw [Bool.eq_iff_iff]
  by_cases htask : ∃ i, (p.task i).id = key
  · obtain ⟨i, rfl⟩ := htask
    rw [isScheduled_schedule_iff hnet hs', isScheduled_schedule_iff hnet hs]
  · rw [s'.isScheduled_iff, s.isScheduled_iff, early?_schedule_eq_none hnet hs' htask,
      early?_schedule_eq_none hnet hs htask]

/-- A task has a start in a schedule exactly if it can get dates. -/
theorem isSome_earliestStart_iff (hs : p.schedule shifts = .ok s) (i : Fin n) :
    ((s.get? (p.task i).id).bind (·.earliestStart)).isSome ↔
      CanGetDates p.network.tasks dependencies p.projectStart i := by
  rw [earliestStart_schedule hnet hs, Option.isSome_map, Option.isSome_iff_exists,
    ← s.isScheduled_iff]
  exact isScheduled_schedule_iff hnet hs i

/-- The record of a shift, where both schedules have dates for the task. -/
theorem between_eq {s' : Schedule} {old new : Span} (hs : p.schedule shifts = .ok s)
    (hs' : p.schedule shifts' = .ok s') (hold : s.early? (p.task i).id = some old)
    (hnew : s'.early? (p.task i).id = some new) :
    ShiftRecord.between (p.task i) days s s' none reason =
      { taskId := (p.task i).id
        taskName := (p.task i).name
        cause := none
        days := days
        oldStart := some old.start
        oldFinish := some old.finish
        newStart := some new.start
        newFinish := some new.finish
        reason := reason } := by
  rw [ShiftRecord.between, earliestStart_schedule hnet hs, earliestStart_schedule hnet hs',
    earliestFinish_schedule hnet hs, earliestFinish_schedule hnet hs', hold, hnew]
  rfl

theorem position?_eq_none_iff :
    p.network.position? id = none ↔ ∀ i, (p.task i).id ≠ id := by
  rw [Option.eq_none_iff_forall_ne_some]
  exact forall_congr' fun i => not_congr (Network.position?_eq_some_iff hnet)

end Schedules

end Plan

/-! ## The answer -/

/-- What is asked is accepted exactly if nothing about it is at fault. -/
theorem acceptShift_eq_ok_iff_mayShift {p : Plan n} {i : Fin n}
    (hnet : Network.ofProject p.network.tasks dependencies = .ok p.network) :
    p.acceptShift id days = .ok i ↔ MayShift p.network.tasks dependencies i id days := by
  rw [Plan.acceptShift_eq_ok_iff]
  constructor
  · rintro ⟨hposition, hdays, hrec⟩
    exact ⟨Network.isSound_of_ofProject hnet, (Network.position?_eq_some_iff hnet).mp hposition,
      hdays, hrec⟩
  · rintro ⟨-, hknown, hdays, hrec⟩
    exact ⟨(Network.position?_eq_some_iff hnet).mpr hknown, hdays, hrec⟩

/-- What is not accepted is refused. -/
theorem shiftInProject_of_acceptShift {p : Plan n} {e : Error}
    (hp : Plan.ofProject c tasks dependencies settings = .ok p)
    (h : p.acceptShift id days = .error e) :
    shiftInProject c tasks dependencies settings id days reason = .error e := by
  rw [shiftInProject_eq_shiftTask hp]
  exact Plan.shiftTask_eq_error_iff.mpr (Or.inl h)

/-- What is accepted is refused if there is no schedule for the shift to start from. -/
theorem shiftInProject_of_shiftBase {p : Plan n} {i : Fin n} {e : Error}
    (hp : Plan.ofProject c p.network.tasks dependencies settings = .ok p)
    (hnet : Network.ofProject p.network.tasks dependencies = .ok p.network)
    (may : MayShift p.network.tasks dependencies i id days) (h : p.shiftBase id = .error e) :
    shiftInProject c p.network.tasks dependencies settings id days reason = .error e := by
  rw [shiftInProject_eq_shiftTask hp]
  apply Plan.shiftTask_eq_error_iff.mpr
  exact Or.inr ⟨i, (acceptShift_eq_ok_iff_mayShift hnet).mpr may, Or.inl h⟩

/-- The answer that the faults demand is the one that is given. -/
theorem IsShiftAnswer.eq {r : Except Error (Schedule × ShiftRecord)}
    (h : IsShiftAnswer c tasks dependencies settings id days reason r) :
    shiftInProject c tasks dependencies settings id days reason = r := by
  cases h with
  | refused network _ =>
    rw [shiftInProject, Plan.ofProject, network]
    rfl
  | unknownTask sound unknown =>
    obtain ⟨p, hp, hnet, rfl, -⟩ := sound.exists_plan c settings
    apply shiftInProject_of_acceptShift hp
    exact Plan.acceptShift_eq_error_iff.mpr
      (Or.inl ⟨(Plan.position?_eq_none_iff hnet).mpr unknown, rfl⟩)
  | @emptyShift i sound known still =>
    obtain ⟨p, hp, hnet, rfl, -⟩ := sound.exists_plan c settings
    apply shiftInProject_of_acceptShift hp
    exact Plan.acceptShift_eq_error_iff.mpr
      (Or.inr ⟨i, (Network.position?_eq_some_iff hnet).mpr known, Or.inl ⟨still, rfl⟩⟩)
  | @shiftOfRecorded i since sound known moving recorded =>
    obtain ⟨p, hp, hnet, rfl, -⟩ := sound.exists_plan c settings
    apply shiftInProject_of_acceptShift hp
    exact Plan.acceptShift_eq_error_iff.mpr (Or.inr ⟨i,
      (Network.position?_eq_some_iff hnet).mpr known, Or.inr ⟨moving, since, recorded, rfl⟩⟩)
  | @undatedProject i least may undated le =>
    obtain ⟨p, hp, hnet, rfl, hstart⟩ := may.sound.exists_plan c settings
    rw [← hstart] at undated
    have hbaseline : p.baseline = .error (.unschedulable (p.task least).id) :=
      (Plan.schedule_eq_error_iff_undated hnet (Fin.pos i).ne').mpr ⟨undated, least, rfl, le⟩
    apply shiftInProject_of_shiftBase hp hnet may
    exact Plan.shiftBase_eq_error_iff.mpr (Or.inl hbaseline)
  | @undatedTask i j may dated undated =>
    obtain ⟨p, hp, hnet, rfl, hstart⟩ := may.sound.exists_plan c settings
    rw [← hstart] at dated undated
    obtain ⟨s, hs⟩ : ∃ s, p.baseline = .ok s := by
      cases hs : p.baseline with
      | error e =>
        have hnone := (Plan.schedule_eq_error_iff_undated hnet (Fin.pos i).ne').mp hs
        exact absurd dated (hnone.1 j)
      | ok s => exact ⟨s, rfl⟩
    have hnone : (s.get? id).bind (·.earliestStart) = none := by
      rw [← Option.not_isSome_iff_eq_none, ← may.known]
      exact mt (Plan.isSome_earliestStart_iff hnet hs i).mp undated
    apply shiftInProject_of_shiftBase hp hnet may
    exact Plan.shiftBase_eq_error_iff.mpr (Or.inr ⟨s, hs, hnone, rfl⟩)
  | @shifted i p first second old new may dated plan baseline recalculated _ old_eq new_eq =>
    obtain ⟨rfl, hnet, hstart⟩ := Plan.ofProject_eq_ok plan
    obtain rfl := Network.tasks_eq hnet
    obtain rfl := may.known
    rw [← hstart] at dated
    have hbase : p.shiftBase (p.task i).id = .ok first := Plan.shiftBase_eq_ok_iff.mpr
      ⟨baseline, (Plan.isSome_earliestStart_iff hnet baseline i).mpr dated⟩
    rw [shiftInProject_eq_shiftTask plan]
    exact Plan.shiftTask_eq_ok_iff.mpr ⟨i, first, (acceptShift_eq_ok_iff_mayShift hnet).mpr may,
      hbase, recalculated, Plan.between_eq hnet baseline recalculated old_eq new_eq⟩

section Plans

variable {p : Plan n} (plan : Plan.ofProject c p.network.tasks dependencies settings = .ok p)

include plan

/-- A shift that is refused has the fault that is told. None is refused for the second schedule, as
there is one under any shifts if there is one without. -/
theorem isShiftAnswer_of_error {e : Error} (h : p.shiftTask id days reason = .error e) :
    IsShiftAnswer c p.network.tasks dependencies settings id days reason (.error e) := by
  obtain ⟨-, hnet, hstart⟩ := Plan.ofProject_eq_ok plan
  have sound := Network.isSound_of_ofProject hnet
  rcases Plan.shiftTask_eq_error_iff.mp h with haccept | ⟨i, haccept, hrest⟩
  · rcases Plan.acceptShift_eq_error_iff.mp haccept with ⟨hnone, rfl⟩ |
      ⟨i, hposition, ⟨hdays, rfl⟩ | ⟨hdays, since, hsince, rfl⟩⟩
    · exact .unknownTask sound ((Plan.position?_eq_none_iff hnet).mp hnone)
    · exact .emptyShift sound ((Network.position?_eq_some_iff hnet).mp hposition) hdays
    · exact .shiftOfRecorded sound ((Network.position?_eq_some_iff hnet).mp hposition) hdays
        hsince
  · have may := (acceptShift_eq_ok_iff_mayShift hnet).mp haccept
    have hn : n ≠ 0 := (Fin.pos i).ne'
    rcases hrest with hbase | ⟨first, hbase, hsecond⟩
    · rcases Plan.shiftBase_eq_error_iff.mp hbase with hbaseline | ⟨first, hfirst, hnone, rfl⟩
      · obtain ⟨hundated, least, rfl, hle⟩ :=
          (Plan.schedule_eq_error_iff_undated hnet hn).mp hbaseline
        rw [hstart] at hundated
        exact .undatedProject may hundated hle
      · obtain ⟨j, hdated⟩ := Plan.exists_canGetDates hnet hn hfirst
        obtain rfl := may.known
        rw [← Option.not_isSome_iff_eq_none] at hnone
        have hundated := mt (Plan.isSome_earliestStart_iff hnet hfirst i).mpr hnone
        rw [hstart] at hdated hundated
        exact .undatedTask may hdated hundated
    · obtain ⟨second, hok⟩ := Plan.exists_schedule (Network.isOrdered_of_ofProject hnet)
        (Plan.shiftBase_eq_ok_iff.mp hbase).1 ((Shifts.none n).add i days)
      rw [hsecond] at hok
      cases hok

/-- A shift that is carried out has no fault, and its record tells all dates. -/
theorem isShiftAnswer_of_ok {second : Schedule} {record : ShiftRecord}
    (h : p.shiftTask id days reason = .ok (second, record)) :
    IsShiftAnswer c p.network.tasks dependencies settings id days reason
      (.ok (second, record)) := by
  obtain ⟨-, hnet, hstart⟩ := Plan.ofProject_eq_ok plan
  obtain ⟨i, first, haccept, hbase, hsecond, rfl⟩ := Plan.shiftTask_eq_ok_iff.mp h
  obtain ⟨hfirst, hsome⟩ := Plan.shiftBase_eq_ok_iff.mp hbase
  have may := (acceptShift_eq_ok_iff_mayShift hnet).mp haccept
  obtain rfl := may.known
  have hdated := (Plan.isSome_earliestStart_iff hnet hfirst i).mp hsome
  have hscheduled := (Plan.isScheduled_schedule_iff hnet hfirst i).mpr hdated
  obtain ⟨old, new, hold, hnew⟩ := Plan.exists_early_shift hnet hfirst hscheduled days
  have hold' := (Plan.early?_schedule hnet hfirst i).trans hold
  have hnew' := (Plan.early?_schedule hnet hsecond i).trans hnew
  rw [Plan.between_eq hnet hfirst hsecond hold' hnew']
  rw [hstart] at hdated
  exact .shifted may hdated plan hfirst hsecond (Plan.isScheduled_congr hnet hfirst hsecond)
    hold' hnew'

end Plans

/-- The answer that is given is the one that the faults demand. -/
theorem isShiftAnswer_shiftInProject (c : Calendar) (tasks : Vector Task n)
    (dependencies : List Dependency) (settings : Settings) (id : String) (days : ℤ)
    (reason : String) :
    IsShiftAnswer c tasks dependencies settings id days reason
      (shiftInProject c tasks dependencies settings id days reason) := by
  cases hnet : Network.ofProject tasks dependencies with
  | error e =>
    rw [shiftInProject, Plan.ofProject, hnet]
    exact .refused hnet (Network.isNetworkFault_of_ofProject hnet)
  | ok net =>
    obtain rfl := Network.tasks_eq hnet
    have plan : Plan.ofProject c net.tasks dependencies settings =
        .ok ⟨c, net, settings.projectStart⟩ := Plan.ofProject_of_network hnet
    rw [shiftInProject_eq_shiftTask plan]
    cases h : Plan.shiftTask ⟨c, net, settings.projectStart⟩ id days reason with
    | error e => exact isShiftAnswer_of_error plan h
    | ok result => exact isShiftAnswer_of_ok plan h

/-- Where none of the faults is there, the shift is carried out. Every other answer would be for a
fault of a task with this id, of which there is only one. -/
theorem MayShift.exists_shifted {i : Fin n} (may : MayShift tasks dependencies i id days)
    (dated : CanGetDates tasks dependencies settings.projectStart i) (c : Calendar)
    (reason : String) :
    ∃ second record, shiftInProject c tasks dependencies settings id days reason =
      .ok (second, record) := by
  obtain ⟨p, plan, hnet, rfl, -⟩ := may.sound.exists_plan c settings
  have hanswer := isShiftAnswer_shiftInProject c p.network.tasks dependencies settings id days
    reason
  have hsame : ∀ j, (p.task j).id = id → j = i := fun j hj =>
    Network.id_injective hnet (hj.trans may.known.symm)
  cases h : shiftInProject c p.network.tasks dependencies settings id days reason with
  | ok result => exact ⟨result.1, result.2, rfl⟩
  | error e =>
    rw [h] at hanswer
    cases hanswer with
    | refused network _ =>
      rw [hnet] at network
      cases network
    | unknownTask _ unknown => exact absurd may.known (unknown i)
    | emptyShift _ _ still => exact absurd still may.moving
    | shiftOfRecorded _ known _ recorded =>
      obtain rfl := hsame _ known
      rw [(Task.isUnrecorded_iff _).mp may.unrecorded] at recorded
      cases recorded
    | undatedProject _ undated _ => exact absurd dated (undated i)
    | undatedTask may' _ undated =>
      obtain rfl := hsame _ may'.known
      exact absurd dated undated

/-- **Every shift by hand gets the answer that its faults demand**, and no other. Where none of
them is there it is carried out, by any number of days either way. -/
theorem shiftInProject_eq_iff (c : Calendar) (tasks : Vector Task n)
    (dependencies : List Dependency) (settings : Settings) (id : String) (days : ℤ)
    (reason : String) :
    (∀ r, shiftInProject c tasks dependencies settings id days reason = r ↔
      IsShiftAnswer c tasks dependencies settings id days reason r) ∧
    ∀ i, MayShift tasks dependencies i id days →
      CanGetDates tasks dependencies settings.projectStart i →
        ∃ second record, shiftInProject c tasks dependencies settings id days reason =
          .ok (second, record) := by
  refine ⟨fun r => ⟨?_, IsShiftAnswer.eq⟩, fun i may dated => may.exists_shifted dated c reason⟩
  rintro rfl
  exact isShiftAnswer_shiftInProject c tasks dependencies settings id days reason

namespace Sample

/-- Nothing speaks against a shift of the draft, even by more days than the range has. -/
theorem shiftInProject_eq_iff_sample :
    MayShift Sample.tasks Sample.dependencies 0 "draft" (-9223372036854775808) ∧
      CanGetDates Sample.tasks Sample.dependencies Sample.settings.projectStart 0 ∧
      ∃ second record, shiftInProject .standard Sample.tasks Sample.dependencies Sample.settings
        "draft" (-9223372036854775808) "" = .ok (second, record) := by
  have sound := Network.isSound_of_ofProject (Plan.ofProject_eq_ok ofProject_eq).2.1
  have may : MayShift Sample.tasks Sample.dependencies 0 "draft" (-9223372036854775808) :=
    ⟨sound, by decide, by decide, isUnrecorded 0⟩
  have dated : CanGetDates Sample.tasks Sample.dependencies Sample.settings.projectStart 0 :=
    ⟨[0], isAnchoredPath_singleton (by decide) (by decide)⟩
  exact ⟨may, dated, (shiftInProject_eq_iff .standard Sample.tasks Sample.dependencies
    Sample.settings "draft" (-9223372036854775808) "").2 0 may dated⟩

end Sample

/-- Of two faults the one that comes first is told: the task is not there, and there are no days. -/
example : shiftInProject .standard Sample.tasks Sample.dependencies Sample.settings "gone" 0 "" =
    .error (.unknownTask "gone") := by rfl

end Workplan
