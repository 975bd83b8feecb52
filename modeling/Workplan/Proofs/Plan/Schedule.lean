import Workplan.Proofs.Plan.Equation
import Workplan.Proofs.Schedule

/-!
# The schedule of a plan

The schedule of a plan has one entry for each task, under the id of the task. It tells the
early and late spans of the plan, and a task is critical exactly if at most one working day
is counted from its early to its late start.

## Main results

* `slack_eq_zero_iff`, `slack_eq_sub`: what the slack of a task counts
* `exists_schedule`: shifts do not change whether there is a schedule
* `finish?_schedule`: the finish of the schedule is the last early finish
* `early?_schedule`, `late?_schedule`, `slack?_schedule`: the spans and the slack of a task
* `isCritical_iff`: when a task is critical
-/

namespace Workplan.Plan

variable {n : Nat} {p : Plan n} {dependencies : List Dependency} {shifts : Shifts n}
  {s : Schedule} {finish : Day} {i : Fin n} {own span : Span}

/-! ## Timings -/

theorem early?_timing (t : Task) (early late : Option Span) :
    (p.timing t early late).early? = early := by
  cases early <;> rfl

theorem late?_timing (t : Task) (early late : Option Span) :
    (p.timing t early late).late? = late := by
  cases late <;> rfl

theorem isCritical_timing (t : Task) (own span : Span) :
    (p.timing t (some own) (some span)).isCritical ↔ p.slack own span = 0 := by
  change decide (some (p.slack own span) = some 0) = true ↔ _
  rw [decide_eq_true_iff, Option.some_inj]

/-- **There is no slack exactly if at most one working day is counted from the early to the
late start.** Where the late start is not behind the early one, no more than that is counted
either, as the count steps up at most once on a single day. -/
theorem slack_eq_zero_iff : p.slack own span = 0 ↔ p.calendar.countIn own.start span.start ≤ 1 := by
  unfold slack
  split
  · next hle =>
    refine ⟨fun _ => ?_, fun _ => rfl⟩
    have hstep := Calendar.workingBefore_succ (c := p.calendar) own.start.index
    have hmono := Calendar.workingBefore_mono (c := p.calendar)
      (show min (span.start.index + 1) Day.last.index ≤ own.start.index + 1 from
        (Nat.min_le_left _ _).trans (Nat.succ_le_succ hle))
    rw [← Calendar.rank] at hstep
    unfold Calendar.countIn
    split at hstep <;> omega
  · omega

/-- The slack up to a late start that trails the early one is the way between the two. -/
theorem slack_eq_sub (hworking : p.calendar.isWorking span.start) (hlt : span.start < Day.last)
    (hle : own.start ≤ span.start) :
    (p.slack own span : Int) = p.calendar.rank span.start - p.calendar.rank own.start := by
  have hrank := Calendar.rank_mono (c := p.calendar) hle
  unfold slack
  split
  · next hge =>
    rw [le_antisymm hle hge]
    omega
  · rw [Calendar.countIn_of_isWorking hworking hlt]
    omega

/-! ## Entries -/

/-- There is a schedule without tasks, and otherwise one if any of the tasks gets dates. -/
theorem schedule_eq_ok_iff :
    p.schedule shifts = .ok s ↔
      n = 0 ∧ s = .empty ∨
        n ≠ 0 ∧ ∃ finish, lastFinish? (p.early shifts) = some finish ∧
          s = .ofEntries ((p.timings (p.early shifts) finish).map
            fun timing => (timing.taskId, timing)) := by
  unfold schedule
  by_cases hzero : n = 0
  · simp [hzero, eq_comm]
  · simp only [hzero, if_false, false_and, false_or, not_false_eq_true, true_and, ne_eq]
    cases lastFinish? (p.early shifts) with
    | none => simp
    | some finish => simp [eq_comm]

/-- There is no schedule if there are tasks, but none of them gets dates. -/
theorem schedule_eq_error_iff {e : Error} :
    p.schedule shifts = .error e ↔
      n ≠ 0 ∧ lastFinish? (p.early shifts) = none ∧ .unschedulable p.leastId = e := by
  unfold schedule
  by_cases hzero : n = 0
  · simp [hzero]
  · simp only [hzero, if_false, not_false_eq_true, true_and, ne_eq]
    cases lastFinish? (p.early shifts) with
    | none => simp
    | some finish => simp

/-- There is a schedule if some task finishes. -/
theorem exists_schedule_of_lastFinish (hfinish : lastFinish? (p.early shifts) = some finish) :
    ∃ s, p.schedule shifts = .ok s := by
  obtain ⟨⟨i, -⟩, -⟩ := lastFinish?_eq_some_iff.mp hfinish
  exact ⟨_, schedule_eq_ok_iff.mpr (Or.inr ⟨(Fin.pos i).ne', finish, hfinish, rfl⟩)⟩

/-- A task with dates is enough for a schedule. -/
theorem exists_schedule_of_early (hown : (p.early shifts).get i = some own) :
    ∃ s, p.schedule shifts = .ok s := by
  cases hlast : lastFinish? (p.early shifts) with
  | none =>
    rw [lastFinish?_eq_none_iff.mp hlast i] at hown
    cases hown
  | some last => exact exists_schedule_of_lastFinish hlast

theorem map_timings_id (early : Vector (Option Span) n) (finish : Day) :
    ((p.timings early finish).map fun timing => (timing.taskId, timing)).map (·.1) =
      (List.finRange n).map fun i => (p.task i).id := by
  rw [timings, List.map_map, List.map_map]
  rfl

/-- Shifts do not change whether there is a schedule: a task that is planned under some shifts is so
under any others, and one such task is enough. -/
theorem exists_schedule (h : p.network.IsOrdered) (hs : p.schedule shifts = .ok s)
    (shifts' : Shifts n) : ∃ s', p.schedule shifts' = .ok s' := by
  rcases schedule_eq_ok_iff.mp hs with ⟨hzero, -⟩ | ⟨-, finish, hfinish, -⟩
  · exact ⟨.empty, schedule_eq_ok_iff.mpr (Or.inl ⟨hzero, rfl⟩)⟩
  · obtain ⟨⟨i, own, hown, -⟩, -⟩ := lastFinish?_eq_some_iff.mp hfinish
    obtain ⟨own', hown'⟩ := exists_early_congr h hown shifts'
    exact exists_schedule_of_early hown'

/-- The schedule of a project is that of its plan. -/
theorem scheduleProject_eq_ok_iff {c : Calendar} {tasks : Vector Task n} {settings : Settings} :
    scheduleProject c tasks dependencies settings = .ok s ↔
      ∃ p, ofProject c tasks dependencies settings = .ok p ∧ p.baseline = .ok s :=
  bind_eq_ok_iff

section Project

variable {c : Calendar} {tasks : Vector Task n} {settings : Settings}

/-- A project with a network has the plan on it. -/
theorem ofProject_of_network {net : Network n}
    (hnet : Network.ofProject tasks dependencies = .ok net) :
    ofProject c tasks dependencies settings = .ok ⟨c, net, settings.projectStart⟩ := by
  rw [ofProject, hnet]
  rfl

/-- A project with a network is scheduled by the plan on it. -/
theorem scheduleProject_eq_baseline {net : Network n}
    (hnet : Network.ofProject tasks dependencies = .ok net) :
    scheduleProject c tasks dependencies settings =
      (⟨c, net, settings.projectStart⟩ : Plan n).baseline := by
  rw [scheduleProject, ofProject_of_network hnet]
  rfl

/-- A project without a network is refused for the reason of that. -/
theorem scheduleProject_eq_error {e : Error}
    (hnet : Network.ofProject tasks dependencies = .error e) :
    scheduleProject c tasks dependencies settings = .error e := by
  rw [scheduleProject, ofProject, hnet]
  rfl

end Project

section Entries

variable (hnet : Network.ofProject p.network.tasks dependencies = .ok p.network)
  (hs : p.schedule shifts = .ok s)

include hnet hs

/-- **The schedule has one entry for each task, under its id.** The ids are distinct, so that no
entry replaces another one. -/
theorem get?_schedule_iff {key : String} {t : Timing} :
    s.get? key = some t ↔ ∃ i finish, lastFinish? (p.early shifts) = some finish ∧
      (p.task i).id = key ∧ p.timing (p.task i) ((p.early shifts).get i)
        ((p.late (p.early shifts) finish).get i) = t := by
  rcases schedule_eq_ok_iff.mp hs with ⟨rfl, rfl⟩ | ⟨-, finish, hfinish, rfl⟩
  · constructor
    · intro h
      simp [Schedule.get?, Schedule.empty] at h
    · rintro ⟨i, -⟩
      exact i.elim0
  · have hnodup : ((p.timings (p.early shifts) finish).map
        fun timing => (timing.taskId, timing)).map (·.1) |>.Nodup := by
      rw [map_timings_id]
      exact (List.nodup_finRange n).map (Network.id_injective hnet)
    rw [Schedule.get?_ofEntries hnodup, hfinish]
    simp only [timings, List.map_map, List.mem_map, List.mem_finRange, true_and,
      Function.comp_apply, Prod.mk.injEq, Option.some.injEq]
    constructor
    · rintro ⟨i, hid, ht⟩
      exact ⟨i, finish, rfl, hid, ht⟩
    · rintro ⟨i, _, rfl, hid, ht⟩
      exact ⟨i, hid, ht⟩

theorem finish?_eq_some_iff :
    s.finish? = some finish ↔ lastFinish? (p.early shifts) = some finish := by
  rw [Schedule.finish?_eq_some_iff]
  constructor
  · rintro ⟨⟨key, t, ht, hfinish⟩, hle⟩
    obtain ⟨i, last, hlast, -, rfl⟩ := (get?_schedule_iff hnet hs).mp ht
    obtain ⟨own, hown, hfinish⟩ := Option.map_eq_some_iff.mp hfinish
    refine lastFinish?_eq_some_iff.mpr ⟨⟨i, own, hown, hfinish⟩, ?_⟩
    intro j other hother
    refine hle _ _ _ ((get?_schedule_iff hnet hs).mpr ⟨j, last, hlast, rfl, rfl⟩) ?_
    exact congrArg (Option.map (·.finish)) hother
  · intro hlast
    obtain ⟨⟨i, own, hown, hfinish⟩, hle⟩ := lastFinish?_eq_some_iff.mp hlast
    refine ⟨⟨_, _, (get?_schedule_iff hnet hs).mpr ⟨i, finish, hlast, rfl, rfl⟩, ?_⟩, ?_⟩
    · exact (congrArg (Option.map (·.finish)) hown).trans (congrArg some hfinish)
    · rintro key t d ht hd
      obtain ⟨j, _, -, -, rfl⟩ := (get?_schedule_iff hnet hs).mp ht
      obtain ⟨other, hother, rfl⟩ := Option.map_eq_some_iff.mp hd
      exact hle j other hother

/-- **The finish of the schedule is the last early finish.** -/
theorem finish?_schedule : s.finish? = lastFinish? (p.early shifts) :=
  Option.ext fun _ => finish?_eq_some_iff hnet hs

/-- The entry of a task. -/
theorem get?_schedule (i : Fin n) :
    ∃ finish, lastFinish? (p.early shifts) = some finish ∧
      s.get? (p.task i).id = some (p.timing (p.task i) ((p.early shifts).get i)
        ((p.late (p.early shifts) finish).get i)) := by
  rcases schedule_eq_ok_iff.mp hs with ⟨rfl, -⟩ | ⟨-, finish, hfinish, -⟩
  · exact i.elim0
  · exact ⟨finish, hfinish, (get?_schedule_iff hnet hs).mpr ⟨i, finish, hfinish, rfl, rfl⟩⟩

/-- **The schedule of a plan has the ids of its tasks for keys.** -/
theorem isSome_get?_schedule (key : String) :
    (s.get? key).isSome ↔ ∃ i, (p.task i).id = key := by
  constructor
  · intro hsome
    obtain ⟨t, ht⟩ := Option.isSome_iff_exists.mp hsome
    obtain ⟨i, -, -, hid, -⟩ := (get?_schedule_iff hnet hs).mp ht
    exact ⟨i, hid⟩
  · rintro ⟨i, rfl⟩
    obtain ⟨finish, -, hget⟩ := get?_schedule hnet hs i
    rw [hget]
    rfl

/-- There is no entry under a key that is no task's id. -/
theorem get?_schedule_eq_none {key : String} (hkey : ¬ ∃ i, (p.task i).id = key) :
    s.get? key = none := by
  rwa [← isSome_get?_schedule hnet hs, Bool.not_eq_true, Option.isSome_eq_false_iff,
    Option.isNone_iff_eq_none] at hkey

theorem early?_schedule (i : Fin n) : s.early? (p.task i).id = (p.early shifts).get i := by
  obtain ⟨finish, -, hget⟩ := get?_schedule hnet hs i
  rw [Schedule.early?, hget, Option.bind_some, early?_timing]

theorem early?_schedule_eq_none {key : String} (hkey : ¬ ∃ i, (p.task i).id = key) :
    s.early? key = none := by
  rw [Schedule.early?, get?_schedule_eq_none hnet hs hkey, Option.bind_none]

theorem earliestStart_schedule (i : Fin n) :
    (s.get? (p.task i).id).bind (·.earliestStart) = (s.early? (p.task i).id).map (·.start) := by
  obtain ⟨finish, -, hget⟩ := get?_schedule hnet hs i
  rw [Schedule.early?, hget, Option.bind_some, Option.bind_some, early?_timing]
  rfl

theorem earliestFinish_schedule (i : Fin n) :
    (s.get? (p.task i).id).bind (·.earliestFinish) = (s.early? (p.task i).id).map (·.finish) := by
  obtain ⟨finish, -, hget⟩ := get?_schedule hnet hs i
  rw [Schedule.early?, hget, Option.bind_some, Option.bind_some, early?_timing]
  rfl

theorem late?_schedule (hfinish : s.finish? = some finish) (i : Fin n) :
    s.late? (p.task i).id = (p.late (p.early shifts) finish).get i := by
  obtain ⟨last, hlast, hget⟩ := get?_schedule hnet hs i
  rw [finish?_schedule hnet hs, hlast] at hfinish
  cases hfinish
  rw [Schedule.late?, hget, Option.bind_some, late?_timing]

theorem slack?_schedule (hown : s.early? (p.task i).id = some own)
    (hspan : s.late? (p.task i).id = some span) :
    s.slack? (p.task i).id = some (p.slack own span : Int) := by
  obtain ⟨finish, -, hget⟩ := get?_schedule hnet hs i
  rw [Schedule.early?, hget, Option.bind_some, early?_timing] at hown
  rw [Schedule.late?, hget, Option.bind_some, late?_timing] at hspan
  rw [Schedule.slack?, hget, hown, hspan]
  rfl

/-- A task with early dates has late dates. -/
theorem exists_late?_schedule (hown : s.early? (p.task i).id = some own) :
    ∃ finish span, s.finish? = some finish ∧ s.late? (p.task i).id = some span := by
  obtain ⟨finish, hlast, -⟩ := get?_schedule hnet hs i
  have hfinish := (finish?_schedule hnet hs).trans hlast
  have hsome := isSome_late (Network.isOrdered_of_ofProject hnet) (p.early shifts) finish i
  rw [← early?_schedule hnet hs, hown, ← late?_schedule hnet hs hfinish,
    Option.isSome_some, Option.isSome_iff_exists] at hsome
  obtain ⟨span, hspan⟩ := hsome
  exact ⟨finish, span, hfinish, hspan⟩

/-- **When a task is critical.** -/
theorem isCritical_iff (hown : s.early? (p.task i).id = some own)
    (hspan : s.late? (p.task i).id = some span) :
    s.isCritical (p.task i).id ↔ p.calendar.countIn own.start span.start ≤ 1 := by
  obtain ⟨finish, -, hget⟩ := get?_schedule hnet hs i
  rw [Schedule.early?, hget, Option.bind_some, early?_timing] at hown
  rw [Schedule.late?, hget, Option.bind_some, late?_timing] at hspan
  rw [Schedule.isCritical, hget, Option.any_some, hown, hspan, isCritical_timing,
    slack_eq_zero_iff]

/-- A critical task has early dates. -/
theorem exists_early?_of_isCritical (h : s.isCritical (p.task i).id) :
    ∃ own, s.early? (p.task i).id = some own := by
  obtain ⟨finish, -, hget⟩ := get?_schedule hnet hs i
  rw [early?_schedule hnet hs]
  cases hown : (p.early shifts).get i with
  | none =>
    rw [Schedule.isCritical, hget, hown] at h
    cases h
  | some own => exact ⟨own, rfl⟩

end Entries

end Workplan.Plan
