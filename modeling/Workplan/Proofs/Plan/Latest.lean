import Workplan.Proofs.Plan.Feasible
import Workplan.Proofs.Plan.Schedule

/-!
# Latest starts

The late dates of a schedule are the greatest ones that keep the end of the project, and the
slack of a task is the way from its early to its late start. This holds for projects without
recorded days whose computation stays inside the range of days.

## Main results

* `late_start_greatest`: the late starts of a schedule are the greatest feasible ones
-/

namespace Workplan.Plan

variable {n : Nat} {p : Plan n} {tasks : Vector Task n} {dependencies : List Dependency}
  {shifts : Shifts n} {s : Schedule} {finish : Day}

/-- The schedule of a plan has dates for the planned tasks. -/
theorem isScheduled_iff_isPlanned
    (hnet : Network.ofProject p.network.tasks dependencies = .ok p.network)
    (hs : p.schedule shifts = .ok s) (i : Fin n) :
    s.isScheduled (p.task i).id ↔ p.IsPlanned i := by
  rw [s.isScheduled_iff, isPlanned_iff (Network.isOrdered_of_ofProject hnet) shifts,
    early?_schedule hnet hs]

/-- A plan without recorded days that stays inside the range is regular if any of its tasks
gets dates. -/
theorem exists_isRegular (hnet : Network.ofProject p.network.tasks dependencies = .ok p.network)
    (hrec : ∀ i, (p.task i).IsUnrecorded) (hin : p.StaysInside shifts)
    (hs : p.schedule shifts = .ok s) {i : Fin n} (hi : s.isScheduled (p.task i).id) :
    ∃ finish, p.IsRegular dependencies shifts finish := by
  obtain ⟨own, hown⟩ := (s.isScheduled_iff _).mp hi
  obtain ⟨finish, -, hfinish, -⟩ := exists_late?_schedule hnet hs hown
  exact ⟨finish, hnet, hrec, hin, (finish?_schedule hnet hs).symm.trans hfinish⟩

namespace IsRegular

variable (hr : p.IsRegular dependencies shifts finish) (hs : p.schedule shifts = .ok s) {i : Fin n}

include hr hs

/-! ## The schedule of a regular plan -/

theorem finish?_schedule : s.finish? = some finish :=
  (Plan.finish?_schedule hr.network_eq hs).trans hr.lastFinish_eq

theorem early?_schedule (hi : p.IsPlanned i) :
    s.early? (p.task i).id = some (p.spanAt (p.earlyStart shifts) i) :=
  (Plan.early?_schedule hr.network_eq hs i).trans (hr.early_get_eq hi)

theorem eq_of_early?_schedule {early : Span} (hearly : s.early? (p.task i).id = some early) :
    p.IsPlanned i ∧ early = p.spanAt (p.earlyStart shifts) i := by
  have hi : p.IsPlanned i := (isScheduled_iff_isPlanned hr.network_eq hs i).mp
    ((s.isScheduled_iff _).mpr ⟨early, hearly⟩)
  exact ⟨hi, Option.some.inj (hearly.symm.trans (hr.early?_schedule hs hi))⟩

theorem late?_schedule (hi : p.IsPlanned i) :
    s.late? (p.task i).id = some (p.spanAt (p.lateStart shifts finish) i) :=
  (Plan.late?_schedule hr.network_eq hs (hr.finish?_schedule hs) i).trans (hr.late_get_eq hi)

/-- **The slack of a task is the way from its early to its late start.** -/
theorem exists_slack?_schedule (hi : p.IsPlanned i) :
    ∃ slack, s.slack? (p.task i).id = some slack ∧
      slack = p.calendar.rank (p.lateStart shifts finish i) -
        (p.calendar.rank (p.earlyStart shifts i) : Int) := by
  refine ⟨_, slack?_schedule hr.network_eq hs (hr.early?_schedule hs hi)
    (hr.late?_schedule hs hi), ?_⟩
  exact slack_eq_sub (hr.isWorking_late hi) (hr.lateStart_lt hi) (hr.earlyStart_le_lateStart hi)

end IsRegular

/-- Starts that are the latest ones of a schedule: the late dates begin with them, they keep
every dependency and the end of the project, any other starts that do so come no later, and
the slack of a task leads to them from its early start. -/
structure IsLatest (c : Calendar) (tasks : Vector Task n) (dependencies : List Dependency)
    (s : Schedule) (finish : Day) (latest : Fin n → Day) : Prop where
  late?_eq : ∀ i, s.isScheduled (tasks.get i).id →
    s.late? (tasks.get i).id = some (c.spanFrom (latest i) (tasks.get i).days)
  isFeasible : IsFeasible c tasks dependencies (fun i => s.isScheduled (tasks.get i).id)
    finish latest
  greatest : ∀ starts, IsFeasible c tasks dependencies (fun i => s.isScheduled (tasks.get i).id)
    finish starts → ∀ i, s.isScheduled (tasks.get i).id → starts i ≤ latest i
  early_le : ∀ i early, s.early? (tasks.get i).id = some early → early.start ≤ latest i
  offset_slack : ∀ i early, s.early? (tasks.get i).id = some early →
    ∃ slack, s.slack? (tasks.get i).id = some slack ∧ c.offset early.start slack = latest i

/-- **The late starts of a schedule are the greatest feasible ones.** -/
theorem late_start_greatest {c : Calendar} {settings : Settings}
    (hp : ofProject c tasks dependencies settings = .ok p) (hs : p.baseline = .ok s)
    (hrec : ∀ i, (tasks.get i).IsUnrecorded) (hin : p.StaysInside (Shifts.none n))
    (hfinish : s.finish? = some finish) :
    ∃ latest, IsLatest c tasks dependencies s finish latest := by
  obtain ⟨rfl, hnet, -⟩ := ofProject_eq_ok hp
  obtain rfl := Network.tasks_eq hnet
  have hr : p.IsRegular dependencies (Shifts.none n) finish :=
    ⟨hnet, hrec, hin, (finish?_schedule hnet hs).symm.trans hfinish⟩
  have hplanned : (fun i => (s.isScheduled (p.network.tasks.get i).id : Prop)) = p.IsPlanned :=
    funext fun i => propext (isScheduled_iff_isPlanned hnet hs i)
  refine ⟨p.lateStart (Shifts.none n) finish, ?_, ?_, ?_, ?_, ?_⟩
  · intro i hi
    exact hr.late?_schedule hs ((isScheduled_iff_isPlanned hnet hs i).mp hi)
  · rw [hplanned]
    exact hr.isFeasible_late
  · intro starts hstarts i hi
    rw [hplanned] at hstarts
    exact hr.le_lateStart hstarts ((isScheduled_iff_isPlanned hnet hs i).mp hi)
  · intro i early hearly
    obtain ⟨hi, rfl⟩ := hr.eq_of_early?_schedule hs hearly
    exact hr.earlyStart_le_lateStart hi
  · intro i early hearly
    obtain ⟨hi, rfl⟩ := hr.eq_of_early?_schedule hs hearly
    obtain ⟨slack, hslack, heq⟩ := hr.exists_slack?_schedule hs hi
    -- the slack is the difference of the ranks, and so it leads from the one start to the other
    refine ⟨slack, hslack, Calendar.offset_eq_of_rank (hr.isWorking_late hi) ?_⟩
    rw [heq, spanAt_start]
    omega

end Workplan.Plan

namespace Workplan.Sample

def schedule : Schedule := plan.baseline.toOption.getD .empty

theorem baseline_eq : plan.baseline = .ok schedule := by rfl

/-- Thursday, 9 May 2024: the release. -/
def thursday : Day := ⟨96485144, by decide⟩

set_option maxRecDepth 4000 in
theorem finish?_eq : schedule.finish? = some thursday := by rfl

theorem late_start_greatest_sample :
    ∃ latest, Plan.IsLatest .standard tasks dependencies schedule thursday latest :=
  Plan.late_start_greatest ofProject_eq baseline_eq isUnrecorded staysInside finish?_eq

end Workplan.Sample
