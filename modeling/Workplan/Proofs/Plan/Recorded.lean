import Workplan.Proofs.Calendar.Exact
import Workplan.Proofs.Plan.Schedule
import Workplan.Proofs.Plan.Walk

/-!
# Tasks with a recorded end

A recorded end is the finish of its task, and without a recorded start the start is found by a walk
back from there over the days of the task but one. The walk counts from the first working day on or
after the end, which it leaves out. If the end is a working day, this is the end itself, and it
makes up for the day that the walk spares; but nothing does if the end is not worked. So the task
gets the working days of its duration exactly if it ends on a working day, and otherwise one less.

## Main results

* `worked_startFor`: the working days from the start for a finish to this finish
* `early_eq_of_ended`: the early span of a task with a recorded end
* `worked_of_ended`: the working days that such a task gets
-/

namespace Workplan

namespace Calendar

variable {c : Calendar} {finish : Day} {days : ℕ}

/-- The walk back to the start for a finish takes one day less than asked for. -/
theorem rank_startFor_of_inner (hwalk : ∀ d ∈ c.startWalk finish days, d.IsInner) :
    c.rank (c.startFor finish days) + (days - 1) = c.rank finish := by
  rcases Nat.lt_or_ge 1 days with hmany | hone
  · have hinner : (c.startFor finish days).IsInner :=
      hwalk _ (by simp [startWalk, Nat.not_le.mpr hmany])
    rw [startFor_eq_offset hmany] at hinner ⊢
    obtain ⟨-, hrank⟩ := rank_offset hinner
    omega
  · rw [startFor_of_le_one hone]
    omega

/-- **From the start for a finish to this finish there are as many working days as asked for** if
the finish is worked, and otherwise one less. -/
theorem worked_startFor (hdays : 1 ≤ days) (hwalk : ∀ d ∈ c.startWalk finish days, d.IsInner) :
    c.worked (Set.Icc (c.startFor finish days) finish) =
      if c.isWorking finish then days else days - 1 := by
  have hrank := rank_startFor_of_inner hwalk
  rw [worked_Icc]
  split
  · next hworking =>
    rw [workingBefore_index_succ hworking]
    omega
  · next hoff =>
    rw [workingBefore_index_succ_of_not hoff]
    omega

end Calendar

namespace Plan

variable {n : ℕ} {p : Plan n} {tasks : Vector Task n} {dependencies : List Dependency}
  {i : Fin n} {finish : Day}

/-- **A recorded end is the finish of its task**, whatever its predecessors and its shift. -/
theorem early_eq_of_ended (h : p.network.IsOrdered) (hduration : (p.task i).duration.isSome)
    (hend : (p.task i).ended = some finish) (shifts : Shifts n) :
    (p.early shifts).get i = some
      ⟨(p.task i).began.getD (p.calendar.startFor finish (p.task i).days), finish⟩ := by
  rw [early_eq h, earlySpan?, Option.isNone_eq_false_iff.mpr hduration]
  unfold recordedSpan?
  rw [hend]
  rfl

/-- **The working days of a task with a recorded end** and no recorded start are those of its
duration if it ends on a working day, and one less otherwise. -/
theorem worked_of_ended {c : Calendar} {settings : Settings} {duration : ℤ}
    (hp : ofProject c tasks dependencies settings = .ok p)
    (hduration : (tasks.get i).duration = some duration) (hpos : 1 ≤ duration)
    (hbegan : (tasks.get i).began = none) (hend : (tasks.get i).ended = some finish)
    (hwalk : ∀ d ∈ c.startWalk finish (tasks.get i).days, d.IsInner) (shifts : Shifts n) :
    ∃ s early, p.schedule shifts = .ok s ∧ s.early? (tasks.get i).id = some early ∧
      early.finish = finish ∧
      c.worked (Set.Icc early.start early.finish) =
        if c.isWorking finish then duration else duration - 1 := by
  obtain ⟨rfl, hnet, -⟩ := ofProject_eq_ok hp
  obtain rfl := Network.tasks_eq hnet
  have hown := early_eq_of_ended (Network.isOrdered_of_ofProject hnet)
    (Option.isSome_iff_exists.mpr ⟨duration, hduration⟩) hend shifts
  change (p.task i).duration = some duration at hduration
  change (p.task i).began = none at hbegan
  rw [hbegan, Option.getD_none] at hown
  have hdays : (p.task i).days = duration.toNat := by rw [Task.days, hduration, Option.getD_some]
  have hone : 1 ≤ (p.task i).days := by omega
  have hworked := Calendar.worked_startFor hone hwalk
  obtain ⟨s, hs⟩ := exists_schedule_of_early hown
  refine ⟨s, _, hs, (early?_schedule hnet hs i).trans hown, rfl, ?_⟩
  rw [hworked]
  split <;> omega

end Plan

namespace Sample

/-- Saturday, 25 May 2024. -/
def endSaturday : Day := ⟨96485160, by decide⟩

/-- A report of two days that is recorded to have ended on a Saturday. -/
def report : Vector Task 1 := #v[{ id := "report", duration := some 2, ended := some endSaturday }]

def reportPlan : Plan 1 := ⟨.standard, lone report, none⟩

theorem ofProject_report_eq : Plan.ofProject .standard report [] {} = .ok reportPlan := by rfl

/-- A shift does not move the recorded end, and the report is left with one working day. -/
theorem worked_of_ended_sample :
    ∃ s early, reportPlan.schedule #v[4] = .ok s ∧ s.early? "report" = some early ∧
      early.finish = endSaturday ∧
      (Calendar.standard.worked (Set.Icc early.start early.finish) : ℤ) = 1 := by
  obtain ⟨s, early, hs, hearly, hfinish, hworked⟩ :=
    Plan.worked_of_ended (i := 0) ofProject_report_eq rfl (by decide) rfl rfl (by decide) #v[4]
  exact ⟨s, early, hs, hearly, hfinish, hworked.trans (by decide)⟩

/-- The report does not get the two working days of its duration. -/
theorem ended_on_saturday_lacks_day :
    ∃ s early, Plan.ofProject .standard report [] {} = .ok reportPlan ∧
      reportPlan.baseline = .ok s ∧ s.early? "report" = some early ∧
      early.finish = endSaturday ∧ (report.get 0).duration = some 2 ∧
      Calendar.standard.worked (Set.Icc early.start early.finish) = 1 := by
  refine ⟨reportPlan.baseline.toOption.getD .empty, ⟨⟨96485159, by decide⟩, endSaturday⟩,
    by rfl, by rfl, by decide, rfl, rfl, ?_⟩
  rw [Calendar.worked_Icc]
  decide

end Sample

end Workplan
