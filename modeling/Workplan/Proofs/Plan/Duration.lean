import Workplan.Proofs.Calendar.Laws
import Workplan.Proofs.Plan.Schedule
import Workplan.Proofs.Plan.Walk

/-!
# Dates that take the duration

Recorded days and anchors may lie on days that are not worked, but inside the range of days every
walk from there leads to a working day. So the late dates of a schedule are working days, and so are
the early dates of a task without recorded days; both pairs of dates of such a task have the working
days of its duration between them. The late dates take the days that the task keeps, which are
counted in the early ones, so that the two agree.

## Main definitions

* `Calendar.Lasts`: working days with exactly a duration between them

## Main results

* `IsSpan.lasts`: a span of the days of a task lasts its duration
* `dates_last_duration`: computed dates are working days and last the duration of the task
-/

namespace Workplan

namespace Calendar

/-- **The dates of a span last a duration**: they are working days, and the working days from the
first to the last of them are as many as the duration says. Without any days to take, the two dates
are one. -/
structure Lasts (c : Calendar) (duration : ℤ) (s : Span) : Prop where
  isWorking_start : c.isWorking s.start
  isWorking_finish : c.isWorking s.finish
  worked_eq : 1 ≤ duration → c.worked (Set.Icc s.start s.finish) = duration
  start_eq_finish : duration ≤ 0 → s.start = s.finish

/-- A span of the days of a task lasts its duration. -/
theorem IsSpan.lasts {c : Calendar} {t : Task} {duration : ℤ} {s : Span} (h : c.IsSpan t.days s)
    (ht : t.duration = some duration) : c.Lasts duration s := by
  have hdays : t.days = duration.toNat := by rw [Task.days, ht, Option.getD_some]
  refine ⟨h.isWorking, (h.rank_atEnd .finish).1, ?_, ?_⟩
  · intro hpos
    rw [← countIn_eq_worked h.finish_lt, h.countIn_eq (by omega), hdays]
    omega
  · intro hnone
    have hzero : t.days = 0 := by omega
    rw [h.finish_eq, hzero, finishFrom_zero]

end Calendar

namespace Plan

variable {n : Nat} {p : Plan n} {tasks : Vector Task n} {dependencies : List Dependency}
  {shifts : Shifts n} {s : Schedule} {i : Fin n}

/-- **Inside the range of days, computed dates are working days that last the duration.** The late
dates of every task are working days, whatever is recorded of it and of the others, and both the
early and the late dates of a task without recorded days last its duration. -/
theorem dates_last_duration {c : Calendar} {settings : Settings}
    (hp : ofProject c tasks dependencies settings = .ok p) (hs : p.schedule shifts = .ok s)
    (hin : p.StaysInside shifts) (hi : s.isScheduled (tasks.get i).id) :
    ∃ early late duration, s.early? (tasks.get i).id = some early ∧
      s.late? (tasks.get i).id = some late ∧ (tasks.get i).duration = some duration ∧
      (c.isWorking late.start ∧ c.isWorking late.finish) ∧
      ((tasks.get i).IsUnrecorded → c.Lasts duration early ∧ c.Lasts duration late) := by
  obtain ⟨rfl, hnet, -⟩ := ofProject_eq_ok hp
  obtain rfl := Network.tasks_eq hnet
  have h := Network.isOrdered_of_ofProject hnet
  obtain ⟨own, hearly⟩ := (s.isScheduled_iff _).mp hi
  obtain ⟨finish, span, hfinish, hlate⟩ := exists_late?_schedule hnet hs hearly
  have hown := (early?_schedule hnet hs i).symm.trans hearly
  have hspan := (late?_schedule hnet hs hfinish i).symm.trans hlate
  rw [finish?_schedule hnet hs] at hfinish
  obtain ⟨duration, hduration⟩ := Option.isSome_iff_exists.mp
    (Option.isNone_eq_false_iff.mp (duration_isSome h hown))
  -- recorded days may change the length of a late span, but not that its ends are worked
  have hkept := isSpan_late_kept h hin hfinish hown hspan
  refine ⟨own, span, duration, hearly, hlate, hduration,
    ⟨hkept.isWorking, (hkept.rank_atEnd .finish).1⟩, fun hrec => ⟨?_, ?_⟩⟩
  · exact (isSpan_early h hin hrec hown).lasts hduration
  · exact (isSpan_late h hin hrec hfinish hown hspan).lasts hduration

end Plan

namespace Sample

/-- The draft is recorded to have ended on Saturday, 18 May 2024. -/
def endedOnSaturday : Vector Task 3 :=
  #v[{ id := "draft", duration := some 3, ended := some ⟨96485153, by decide⟩ },
    { id := "review", duration := some 2 }, { id := "release", duration := some 0 }]

def endedPlan : Plan 3 := ⟨.standard, networkOf endedOnSaturday, some monday⟩

set_option maxRecDepth 4000 in
theorem ofProject_ended_eq :
    Plan.ofProject .standard endedOnSaturday dependencies settings = .ok endedPlan := by rfl

/-- The two days of the review, which is shifted by one day. -/
theorem dates_last_duration_sample : ∃ s, endedPlan.schedule #v[0, 1, 0] = .ok s ∧
    ∃ early late, s.early? "review" = some early ∧ s.late? "review" = some late ∧
      Calendar.standard.Lasts 2 early ∧ Calendar.standard.Lasts 2 late := by
  obtain ⟨s, hs, hi⟩ : ∃ s, endedPlan.schedule #v[0, 1, 0] = .ok s ∧
      s.isScheduled (endedOnSaturday.get 1).id := ⟨_, by rfl, by decide⟩
  have hin : endedPlan.StaysInside #v[0, 1, 0] := by decide
  obtain ⟨early, late, duration, hearly, hlate, hduration, -, hlast⟩ :=
    Plan.dates_last_duration ofProject_ended_eq hs hin hi
  obtain rfl : 2 = duration := Option.some.inj hduration
  exact ⟨s, hs, early, late, hearly, hlate, hlast (by decide)⟩

end Sample

end Workplan
