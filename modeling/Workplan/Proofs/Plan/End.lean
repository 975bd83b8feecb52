import Workplan.Proofs.Plan.Latest

/-!
# The end of a project

A task that ends the project is held to the last working day of it, and it keeps the days of
its early span to be critical. Two kinds of spans lose days on the way: those of milestones
with recorded days, and those that end on the last day of the range if that is worked, as this
day is never counted. All others are critical, whatever is recorded and wherever the walks
stop.

## Main definitions

* `Calendar.LosesDays`: the spans that do not keep their days

## Main results

* `isCritical_iff_of_finish`: when a task that ends the project is critical
-/

namespace Workplan

namespace Calendar

variable {c : Calendar} {own : Span} {days : Nat}

/-- A span of two counted days or more that does not keep them: it belongs to a milestone, or
it ends on the last day of the range and that day is worked. -/
def LosesDays (c : Calendar) (days : Nat) (own : Span) : Prop :=
  2 ≤ c.countIn own.start own.finish ∧
    (days = 0 ∨ own.finish = Day.last ∧ c.isWorking Day.last)

instance (c : Calendar) (days : Nat) (own : Span) : Decidable (c.LosesDays days own) :=
  inferInstanceAs (Decidable (_ ∧ _))

/-- The working day of a rank that another day reaches. -/
theorem rank_dayAt_of_le {d : Day} {k : Nat} (hd : c.isWorking d) (h : k ≤ c.rank d) :
    c.isWorking (c.dayAt k) ∧ c.rank (c.dayAt k) = k := by
  refine (dayAt_cases k).resolve_right fun ⟨_, hcount⟩ => ?_
  have := rank_lt_workingBefore hd
  omega

/-- **The counted days of a span lead back to its start**, or to the working day after that if
the span ends on the last day of the range and this is worked. That day is never counted, so the way
back from it is one day short. It does not matter to a span of one counted day or none, which is put
on the last working day up to its finish in any case. -/
theorem countIn_startFor_le_one_iff (own : Span) :
    c.countIn own.start
        (c.startFor (c.onOrBefore own.finish) (c.countIn own.start own.finish)) ≤ 1 ↔
      ¬ (2 ≤ c.countIn own.start own.finish ∧ own.finish = Day.last ∧ c.isWorking Day.last) := by
  rcases Nat.lt_or_ge 1 (c.countIn own.start own.finish) with hmany | hfew
  · rw [startFor_eq_offset hmany, offset]
    by_cases hlast : own.finish = Day.last ∧ c.isWorking Day.last
    · refine iff_of_false (fun hle => ?_) (not_not_intro ⟨hmany, hlast⟩)
      obtain ⟨hend, hworking⟩ := hlast
      have hcount : c.countIn own.start Day.last = c.rank Day.last - c.rank own.start := rfl
      rw [hend, onOrBefore_of_isWorking hworking] at hle
      rw [hend] at hmany
      have hnumber : (c.rank Day.last : Int) + -((c.countIn own.start Day.last - 1 : Nat) : Int) =
          (c.rank own.start + 1 : Nat) := by omega
      rw [hnumber] at hle
      obtain ⟨hstart, hrank⟩ := rank_dayAt_of_le hworking
        (show c.rank own.start + 1 ≤ c.rank Day.last by omega)
      rw [countIn_of_isWorking hstart ((lt_iff_rank_lt hstart).mpr (by omega))] at hle
      omega
    · refine iff_of_true ?_ fun hboth => hlast hboth.2
      have hcount := countIn_eq_of_not (d := own.start) hlast
      rcases onOrBefore_cases (c := c) own.finish with ⟨hzero, -⟩ | ⟨hworking, -, hsucc⟩
      · omega
      · have hnumber : (c.rank (c.onOrBefore own.finish) : Int) +
            -((c.countIn own.start own.finish - 1 : Nat) : Int) = c.rank own.start := by omega
        rw [hnumber]
        obtain ⟨hstart, hrank⟩ := rank_dayAt_of_le hworking
          (show c.rank own.start ≤ c.rank (c.onOrBefore own.finish) by omega)
        refine (countIn_le _ _).trans ?_
        rw [workingBefore_index_succ hstart]
        omega
  · rw [startFor_of_le_one hfew, countIn_onOrBefore]
    omega

end Calendar

namespace Plan

variable {n : Nat} {p : Plan n} {tasks : Vector Task n} {dependencies : List Dependency}
  {s : Schedule} {i : Fin n} {own span : Span}

/-- **The end of the project leaves a task no slack exactly if its span keeps its days.** -/
theorem countIn_lastStart_le_one_iff (t : Task) (own : Span) :
    p.calendar.countIn own.start (p.lastStart own.finish (p.keptDays t own)) ≤ 1 ↔
      ¬ p.calendar.LosesDays t.days own := by
  unfold lastStart keptDays Calendar.LosesDays
  split
  · next hzero =>
    rw [Calendar.startFor_zero, Calendar.countIn_onOrBefore]
    simp only [hzero, true_or, and_true, Nat.not_le]
    exact Nat.lt_succ_iff.symm
  · next hpos =>
    simp only [hpos, false_or]
    exact Calendar.countIn_startFor_le_one_iff own

/-- The late start of a task is counted up to one day exactly if it is held there by the end
of the project or by one of its limits. It is the least of them, and a later end of an interval
counts no fewer days. -/
theorem countIn_late_le_one_iff (h : p.network.IsOrdered) {early : Vector (Option Span) n}
    {finish : Day} (hown : early.get i = some own)
    (hspan : (p.late early finish).get i = some span) :
    p.calendar.countIn own.start span.start ≤ 1 ↔
      ∃ x ∈ p.lastStart finish (p.keptDays (p.task i) own) ::
        p.startLimits i (p.keptDays (p.task i) own) (p.late early finish),
        p.calendar.countIn own.start x ≤ 1 := by
  obtain ⟨-, hmem, hle⟩ := late_cases h hown hspan
  constructor
  · intro hfew
    exact ⟨span.start, hmem, hfew⟩
  · rintro ⟨x, hx, hfew⟩
    exact (Calendar.countIn_mono (hle x hx)).trans hfew

/-- **When a task that ends the project is critical.** It is if its span keeps its days, and
then there is a critical path; otherwise only if the late dates of a successor hold it to its
early start. -/
theorem isCritical_iff_of_finish {c : Calendar} {settings : Settings}
    (hp : ofProject c tasks dependencies settings = .ok p) (hs : p.baseline = .ok s)
    (hearly : s.early? (tasks.get i).id = some own) (hend : s.finish? = some own.finish) :
    (s.isCritical (tasks.get i).id ↔ ¬ c.LosesDays (tasks.get i).days own ∨
      ∃ d ∈ dependencies, ∃ j late, d.Joins tasks i j ∧ s.late? (tasks.get j).id = some late ∧
        c.countIn own.start
          (d.relation.latestStart c late (p.keptDays (tasks.get i) own)) ≤ 1) ∧
    (¬ c.LosesDays (tasks.get i).days own → s.criticalPath ≠ []) := by
  obtain ⟨rfl, hnet, -⟩ := ofProject_eq_ok hp
  obtain rfl := Network.tasks_eq hnet
  have h := Network.isOrdered_of_ofProject hnet
  obtain ⟨finish, span, hfinish, hlate⟩ := exists_late?_schedule hnet hs hearly
  obtain rfl : own.finish = finish := Option.some.inj (hend.symm.trans hfinish)
  have hown := (early?_schedule hnet hs i).symm.trans hearly
  have hspan := (late?_schedule hnet hs hend i).symm.trans hlate
  have hiff : s.isCritical (p.task i).id ↔ ¬ p.calendar.LosesDays (p.task i).days own ∨
      ∃ d ∈ dependencies, ∃ j late, d.Joins p.network.tasks i j ∧
        s.late? (p.task j).id = some late ∧ p.calendar.countIn own.start
          (d.relation.latestStart p.calendar late (p.keptDays (p.task i) own)) ≤ 1 := by
    rw [isCritical_iff hnet hs hearly hlate, countIn_late_le_one_iff h hown hspan,
      List.exists_mem_cons_iff, countIn_lastStart_le_one_iff]
    -- what is left to compare are the limits, link by link and dependency by dependency
    refine or_congr_right ⟨?_, ?_⟩
    · rintro ⟨x, hx, hfew⟩
      obtain ⟨link, hlink, rfl, late, hget, rfl⟩ := mem_startLimits.mp hx
      obtain ⟨d, hd, hjoins, hrelation⟩ := (Network.mem_links_iff hnet).mp hlink
      rw [← hrelation] at hfew
      exact ⟨d, hd, link.successor, late, hjoins,
        (late?_schedule hnet hs hend _).trans hget, hfew⟩
    · rintro ⟨d, hd, j, late, hjoins, hget, hfew⟩
      have hlink : (⟨i, j, d.relation⟩ : Link n) ∈ p.network.links :=
        (Network.mem_links_iff hnet).mpr ⟨d, hd, hjoins, rfl⟩
      exact ⟨_, mem_startLimits.mpr ⟨_, hlink, rfl, late,
        (late?_schedule hnet hs hend j).symm.trans hget, rfl⟩, hfew⟩
  exact ⟨hiff, fun hkeeps => Schedule.criticalPath_ne_nil (hiff.mpr (Or.inl hkeeps))⟩

end Plan

namespace Sample

theorem isCritical_iff_of_finish_sample :
    (schedule.isCritical "release" ↔ ¬ Calendar.standard.LosesDays 0 ⟨thursday, thursday⟩ ∨
      ∃ d ∈ dependencies, ∃ j late, d.Joins tasks 2 j ∧
        schedule.late? (tasks.get j).id = some late ∧ Calendar.standard.countIn thursday
          (d.relation.latestStart .standard late
            (plan.keptDays (tasks.get 2) ⟨thursday, thursday⟩)) ≤ 1) ∧
    (¬ Calendar.standard.LosesDays 0 ⟨thursday, thursday⟩ → schedule.criticalPath ≠ []) :=
  Plan.isCritical_iff_of_finish (i := 2) ofProject_eq baseline_eq (by decide) finish?_eq

/-- Friday, 10 May 2024. -/
def friday : Day := ⟨96485145, by decide⟩

/-- A milestone with recorded days, from Monday to Friday, and nothing else. -/
def recorded : Vector Task 1 :=
  #v[{ id := "kickoff", duration := some 0, began := some monday, ended := some friday }]

def recordedPlan : Plan 1 := ⟨.standard, lone recorded, none⟩

/-- The milestone ends the project, but it is not critical and the critical path is empty. -/
theorem recorded_milestone_not_critical :
    ∃ s early, Plan.ofProject .standard recorded [] {} = .ok recordedPlan ∧
      recordedPlan.baseline = .ok s ∧ s.early? "kickoff" = some early ∧
      s.finish? = some early.finish ∧ s.isCritical "kickoff" = false ∧ s.criticalPath = [] := by
  refine ⟨recordedPlan.baseline.toOption.getD .empty, ⟨monday, friday⟩, by rfl, by rfl, ?_⟩
  decide

end Sample

end Workplan
