import Workplan.Proofs.Plan.End

/-!
# Late finishes

No late span runs past the end of the project. The latest start that the end of the project
leaves to a task is found by a walk back from the last working day of the project, over the
days that the task keeps. These days were counted in an interval that ends with the project,
so that many working days lie before its end: the walk back does not stop at the first day of
the range, and the way on to the finish leads to the last working day again. A limit that a
successor sets can only make the start earlier, wherever the walk to it stops.

## Main results

* `finishFrom_startFor`: the way back over days that are there and on again
* `late_start_le_finish`, `late_finish_le`: a late span is in order and ends with the project
* `late_dates_within_project`: the same of the late dates of a schedule
-/

namespace Workplan

namespace Calendar

variable {c : Calendar} {d start finish : Day} {days : Nat}

/-! ## Back over counted days -/

/-- The walk back over no more working days than there are ends on a working day. -/
theorem rank_startFor (hd : c.isWorking d) (hpos : 0 < days) (h : days ≤ c.rank d + 1) :
    c.isWorking (c.startFor d days) ∧ c.rank (c.startFor d days) + (days - 1) = c.rank d := by
  rcases Nat.lt_or_ge 1 days with hmany | hone
  · have hnumber : (c.rank d : Int) + -((days - 1 : Nat) : Int) =
        (c.rank d - (days - 1) : Nat) := by omega
    rw [startFor_eq_offset hmany, offset, hnumber]
    obtain ⟨hworking, hrank⟩ := rank_dayAt_of_le hd (Nat.sub_le (c.rank d) (days - 1))
    exact ⟨hworking, by omega⟩
  · rw [startFor_of_le_one hone]
    exact ⟨hd, by omega⟩

/-- **The way back over working days that are there, and on again, leads to the same day.** -/
theorem finishFrom_startFor (hd : c.isWorking d) (h : days ≤ c.rank d + 1) :
    c.finishFrom (c.startFor d days) days = d := by
  rcases Nat.eq_zero_or_pos days with rfl | hpos
  · rfl
  · have hrank := (rank_startFor hd hpos h).2
    rw [finishFrom_eq_offset (Nat.ne_of_gt hpos)]
    apply offset_eq_of_rank hd
    omega

/-- Days that are counted up to a finish fit in before it. There are none of them if there is no
working day up to the finish; otherwise the walk back over them starts at the last such day. -/
theorem finishFrom_startFor_onOrBefore_le (h : days ≤ c.countIn start finish) :
    c.finishFrom (c.startFor (c.onOrBefore finish) days) days ≤ finish := by
  have hcount := countIn_le (c := c) start finish
  rcases onOrBefore_cases (c := c) finish with ⟨hzero, hfirst⟩ | ⟨hworking, hle, hrank⟩
  · obtain rfl : days = 0 := by omega
    rw [hfirst]
    exact finish.first_le
  · rw [finishFrom_startFor hworking (by omega)]
    exact hle

end Calendar

namespace Plan

variable {n : Nat} {p : Plan n} {tasks : Vector Task n} {dependencies : List Dependency}
  {early : Vector (Option Span) n} {shifts : Shifts n} {s : Schedule} {finish : Day}
  {i : Fin n} {own span : Span}

/-! ## Late spans -/

/-- A task keeps no more days than are counted from its early start to a later finish. -/
theorem keptDays_le_countIn (t : Task) (h : own.finish ≤ finish) :
    p.keptDays t own ≤ p.calendar.countIn own.start finish := by
  unfold keptDays
  split
  · exact Nat.zero_le _
  · exact Calendar.countIn_mono h

section Late

variable (h : p.network.IsOrdered) (hown : early.get i = some own)
  (hspan : (p.late early finish).get i = some span)

include h hown hspan

theorem late_start_le_finish : span.start ≤ span.finish := by
  rw [(late_cases h hown hspan).1]
  exact Calendar.le_finishFrom _ _

/-- **A late span ends with the project**, if the early span of the task does so. Of all that holds
its start, this takes only the end of the project: the span keeps the days that its early span has
up to there, and they fit in. -/
theorem late_finish_le (hle : own.finish ≤ finish) : span.finish ≤ finish := by
  obtain ⟨heq, -, hstart⟩ := late_cases h hown hspan
  have hlast : span.start ≤ p.lastStart finish (p.keptDays (p.task i) own) :=
    hstart _ List.mem_cons_self
  rw [heq]
  calc p.calendar.finishFrom span.start (p.keptDays (p.task i) own)
      ≤ p.calendar.finishFrom (p.lastStart finish (p.keptDays (p.task i) own))
          (p.keptDays (p.task i) own) := Calendar.finishFrom_mono hlast
    _ ≤ finish := Calendar.finishFrom_startFor_onOrBefore_le (keptDays_le_countIn _ hle)

end Late

/-- **No late dates run past the end of the project**, under any shifts, whatever is recorded
and wherever the walks stop. The project ends with the last early finish, so that every early span
ends with it. -/
theorem late_dates_within_project {c : Calendar} {settings : Settings}
    (hp : ofProject c tasks dependencies settings = .ok p) (hs : p.schedule shifts = .ok s)
    (hi : s.isScheduled (tasks.get i).id) :
    ∃ late finish, s.late? (tasks.get i).id = some late ∧ s.finish? = some finish ∧
      late.start ≤ late.finish ∧ late.finish ≤ finish := by
  obtain ⟨rfl, hnet, -⟩ := ofProject_eq_ok hp
  obtain rfl := Network.tasks_eq hnet
  have h := Network.isOrdered_of_ofProject hnet
  obtain ⟨own, hearly⟩ := (s.isScheduled_iff _).mp hi
  obtain ⟨finish, late, hfinish, hlate⟩ := exists_late?_schedule hnet hs hearly
  have hown := (early?_schedule hnet hs i).symm.trans hearly
  have hspan := (late?_schedule hnet hs hfinish i).symm.trans hlate
  rw [finish?_schedule hnet hs] at hfinish
  have hle : own.finish ≤ finish := (lastFinish?_eq_some_iff.mp hfinish).2 i own hown
  refine ⟨late, finish, hlate, (finish?_schedule hnet hs).trans hfinish, ?_, ?_⟩
  · exact late_start_le_finish h hown hspan
  · exact late_finish_le h hown hspan hle

end Plan

namespace Sample

/-- An inspection that is recorded to end before it begins, and a repair behind it. -/
def crossed : Vector Task 2 :=
  #v[{ id := "inspection", duration := some 2, began := some friday, ended := some monday },
    { id := "repair", duration := some 3 }]

def crossedDependencies : List Dependency :=
  [{ predecessor := "inspection", successor := "repair", relation := { lag := 1 } }]

def crossedNetwork : Network 2 where
  tasks := crossed
  index :=
    { positions := .ofList [("inspection", (0 : Fin 2)), ("repair", 1)]
      ids := #["inspection", "repair"] }
  links := [⟨0, 1, { lag := 1 }⟩]
  order := [0, 1]

def crossedPlan : Plan 2 := ⟨.standard, crossedNetwork, none⟩

theorem ofProject_crossed_eq :
    Plan.ofProject .standard crossed crossedDependencies {} = .ok crossedPlan := by rfl

/-- The repair is shifted past the end of the range, so that the project ends with it. -/
theorem late_dates_within_project_sample : ∃ s, crossedPlan.schedule #v[0, 191491529] = .ok s ∧
    ∃ late finish, s.late? "inspection" = some late ∧ s.finish? = some finish ∧
      late.start ≤ late.finish ∧ late.finish ≤ finish := by
  obtain ⟨s, hs, hi⟩ : ∃ s, crossedPlan.schedule #v[0, 191491529] = .ok s ∧
      s.isScheduled (crossed.get 0).id := ⟨_, by rfl, by decide⟩
  exact ⟨s, hs, Plan.late_dates_within_project ofProject_crossed_eq hs hi⟩

end Sample

end Workplan
