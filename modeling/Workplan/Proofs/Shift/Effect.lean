import Workplan.Proofs.Plan.Critical
import Workplan.Proofs.Plan.Delay
import Workplan.Proofs.Shift

/-!
# The effect of a shift by hand

A shift by hand moves its task by exactly the working days that were asked for, except that no
task is moved ahead of what its predecessors leave it: these are not moved, so such a task stays
where it is. From the task the move spreads along the dependencies, always in the one direction,
and all that is not behind the task keeps its dates.

## Main definitions

* `IsShift`: two schedules that differ by a shift of one task

## Main results

* `Plan.isShift_schedule`: the schedule with a shift of one task put in
* `shiftInProject_isShift`: every shift by hand that is carried out has this effect
-/

namespace Workplan

variable {n : Nat} {dependencies : List Dependency}

/-- **Two schedules that differ by a shift of one task by working days**, which leads the task
from its dates `old` to `new`. -/
structure IsShift (c : Calendar) (tasks : Vector Task n) (dependencies : List Dependency)
    (i : Fin n) (days : Int) (s s' : Schedule) (old new : Span) : Prop where
  early?_eq : s.early? (tasks.get i).id = some old
  early?_eq' : s'.early? (tasks.get i).id = some new
  start_later : 0 < days → new.start = c.offset old.start days
  /-- Nothing holds back a task without scheduled predecessors. -/
  start_earlier : days < 0 → s.IsFirst tasks dependencies i → new.start = c.offset old.start days
  start_held : days < 0 → ¬ s.IsFirst tasks dependencies i → new.start = old.start
  finish_eq : new.finish = c.finishFrom new.start (tasks.get i).days
  /-- What the task does not lead to keeps its dates. -/
  kept : ∀ key, ¬ Relation.ReflTransGen (LeadsTo dependencies) (tasks.get i).id key →
    s'.early? key = s.early? key
  delayed : 0 < days → s.IsDelayed s'
  advanced : days < 0 → s'.IsDelayed s

namespace Plan

variable {p : Plan n} {s s' : Schedule} {i : Fin n} {days : Int}
  (hnet : Network.ofProject p.network.tasks dependencies = .ok p.network)
  (hs : p.baseline = .ok s)

include hnet hs

/-- A scheduled task has early dates before and after. -/
theorem exists_early_shift (hi : s.isScheduled (p.task i).id) (days : Int) :
    ∃ old new, (p.early (Shifts.none n)).get i = some old ∧
      (p.early ((Shifts.none n).add i days)).get i = some new := by
  obtain ⟨old, hold⟩ := (s.isScheduled_iff _).mp hi
  rw [early?_schedule hnet hs] at hold
  obtain ⟨new, hnew⟩ := exists_early_congr (Network.isOrdered_of_ofProject hnet) hold
    ((Shifts.none n).add i days)
  exact ⟨old, new, hold, hnew⟩

variable (hs' : p.schedule ((Shifts.none n).add i days) = .ok s')

include hs'

/-- What the shifted task does not lead to keeps its dates. It is the only one shifted, and a way
along links from it is one along dependencies. -/
theorem early?_eq_of_not_leadsTo {key : String}
    (hkey : ¬ Relation.ReflTransGen (LeadsTo dependencies) (p.task i).id key) :
    s'.early? key = s.early? key := by
  by_cases htask : ∃ j, (p.task j).id = key
  · obtain ⟨j, rfl⟩ := htask
    rw [early?_schedule hnet hs', early?_schedule hnet hs]
    refine early_eq_of_not_reaches (Network.isOrdered_of_ofProject hnet) fun k hk hreaches => ?_
    obtain rfl : i = k := by
      by_contra hne
      exact hk (by rw [get_add_none, if_neg hne, get_none])
    exact hkey (hreaches.lift (fun j => (p.task j).id) fun _ _ =>
      leadsTo_of_linked (Network.ofProject_eq_ok hnet).2.1)
  · rw [early?_schedule_eq_none hnet hs' htask, early?_schedule_eq_none hnet hs htask]

/-- **The schedule with a shift of one task put in.** The predecessors of the task are not moved, so
that it moves against the bounds that it had. -/
theorem isShift_schedule (hrec : (p.task i).IsUnrecorded) (hi : s.isScheduled (p.task i).id)
    (hdays : days ≠ 0) :
    ∃ old new, IsShift p.calendar p.network.tasks dependencies i days s s' old new := by
  have h := Network.isOrdered_of_ofProject hnet
  have hfirst := isFirst_iff_startBounds_eq_nil (i := i) hnet hs
  obtain ⟨old, new, hold, hnew⟩ := exists_early_shift hnet hs hi days
  have hstart := start_eq_of_startBounds_eq h hrec (startBounds_shift h (Shifts.none n) i days)
    hold hnew
  rw [get_add_none, if_pos rfl, shifted, if_neg hdays] at hstart
  refine ⟨old, new, {
    early?_eq := (early?_schedule hnet hs i).trans hold
    early?_eq' := (early?_schedule hnet hs' i).trans hnew
    start_later := fun hpos => ?_
    start_earlier := fun _ hroot => ?_
    start_held := fun hneg hheld => ?_
    finish_eq := congrArg Span.finish (early_cases h hrec hnew).1
    kept := fun _ => early?_eq_of_not_leadsTo hnet hs hs'
    delayed := fun hpos => ?_
    advanced := fun hneg => ?_ }⟩
  · rw [hstart, max_eq_left (Calendar.le_offset hpos.le), ite_self]
  · rw [hstart, if_pos (hfirst.mp hroot)]
  · rw [hstart, if_neg (mt hfirst.mpr hheld), max_eq_right (Calendar.offset_le hneg)]
  -- of the schedules with and without a shift, the one that is shifted further is the delayed one
  · refine (IsDelayed.refl p).isDelayed_schedule hnet hnet (fun j => ?_) hs hs'
    rw [get_none]
    exact get_add_none_nonneg hpos i j
  · refine (IsDelayed.refl p).isDelayed_schedule hnet hnet (fun j => ?_) hs' hs
    rw [get_none]
    exact get_add_none_nonpos hneg i j

end Plan

/-- **A shift by hand moves its task by exactly the working days asked for and touches only what
depends on it.** Its record tells the dates of the task in the schedules without and with it. -/
theorem shiftInProject_isShift {c : Calendar} {tasks : Vector Task n} {settings : Settings}
    {id reason : String} {days : Int} {shifted : Schedule} {record : ShiftRecord}
    (h : shiftInProject c tasks dependencies settings id days reason = .ok (shifted, record)) :
    ∃ i s old new, (tasks.get i).id = id ∧
      scheduleProject c tasks dependencies settings = .ok s ∧
      IsShift c tasks dependencies i days s shifted old new ∧
      record.IsFrom (some old) ∧ record.IsTo (some new) := by
  obtain ⟨p, hp, h⟩ := bind_eq_ok_iff.mp h
  obtain ⟨i, s, haccept, hbase, hshifted, rfl⟩ := Plan.shiftTask_eq_ok_iff.mp h
  obtain ⟨hposition, hdays, hrec⟩ := Plan.acceptShift_eq_ok_iff.mp haccept
  obtain ⟨hs, hstart⟩ := Plan.shiftBase_eq_ok_iff.mp hbase
  obtain ⟨rfl, hnet, -⟩ := Plan.ofProject_eq_ok hp
  obtain rfl := Network.tasks_eq hnet
  obtain rfl := (Network.position?_eq_some_iff hnet).mp hposition
  have hscheduled : s.isScheduled (p.task i).id := by
    refine (s.isScheduled_iff _).mpr (Option.isSome_iff_exists.mp ?_)
    rw [← Option.isSome_map (f := Span.start), ← Plan.earliestStart_schedule hnet hs]
    exact hstart
  obtain ⟨old, new, hshift⟩ := Plan.isShift_schedule hnet hs hshifted hrec hscheduled hdays
  have hdates := Plan.dates_between hnet hs hshifted i days none
    (if reason = "" then Plan.defaultReason else reason)
  refine ⟨i, s, old, new, rfl, Plan.scheduleProject_eq_ok_iff.mpr ⟨p, hp, hs⟩, hshift, ?_, ?_⟩
  · exact hshift.early?_eq ▸ hdates.1
  · exact hshift.early?_eq' ▸ hdates.2

namespace Sample

/-- The draft is moved ahead of the start of the project by two days, and the release with it. -/
theorem shiftInProject_isShift_sample :
    ∃ shifted record, shiftInProject .standard Sample.tasks Sample.dependencies settings "draft"
        (-2) "" = .ok (shifted, record) ∧
      ∃ i s old new, (Sample.tasks.get i).id = "draft" ∧
        scheduleProject .standard Sample.tasks Sample.dependencies settings = .ok s ∧
        IsShift .standard Sample.tasks Sample.dependencies i (-2) s shifted old new ∧
        record.IsFrom (some old) ∧ record.IsTo (some new) := by
  obtain ⟨⟨shifted, record⟩, h⟩ : ∃ result, shiftInProject .standard Sample.tasks
      Sample.dependencies settings "draft" (-2) "" = .ok result := ⟨_, by rfl⟩
  exact ⟨shifted, record, h, shiftInProject_isShift h⟩

end Sample

end Workplan
