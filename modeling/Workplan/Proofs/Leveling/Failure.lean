import Workplan.Proofs.Leveling.Replay
import Workplan.Proofs.Overload.Check

/-!
# Failures of leveling runs

A leveling run is refused before its first move or not at all. What a later stage needs is a
schedule with entries for the tasks and resources that the assignments name: shifts do not
change which tasks have dates, so there is a schedule under any of them, and all of these
schedules have the same keys.

## Main results

* `isNone_get?_schedule_congr`: shifts do not change the keys of the schedule
* `exists_overloads`: what passes under some shifts passes under any
* `level_eq_error_iff`: a run of a workload fails exactly if there is no stage without shifts
* `levelProject_eq_error_iff`: what makes the leveling of a project fail
-/

namespace Workplan

variable {n : Nat} {dependencies : List Dependency} {e : Error}

/-! ## The keys of a schedule -/

section Keys

variable {p : Plan n} {shifts shifts' : Shifts n} {s s' : Schedule}

/-- Shifts do not change the keys of the schedule. -/
theorem Plan.isNone_get?_schedule_congr
    (hnet : Network.ofProject p.network.tasks dependencies = .ok p.network)
    (hs : p.schedule shifts = .ok s) (hs' : p.schedule shifts' = .ok s') (key : String) :
    (s.get? key).isNone = (s'.get? key).isNone := by
  have hiff : (s.get? key).isSome ↔ (s'.get? key).isSome :=
    (isSome_get?_schedule hnet hs key).trans (isSome_get?_schedule hnet hs' key).symm
  rw [← Option.not_isSome, ← Option.not_isSome, Bool.eq_iff_iff.mpr hiff]

/-- **If the overloads under some shifts can be told, they can be told under any.** The threshold is
checked without a look at the schedule, and the assignments only as to which tasks it has, which are
always the same. -/
theorem Plan.exists_overloads
    (hnet : Network.ofProject p.network.tasks dependencies = .ok p.network)
    {resources : List Resource} {assignments : List Assignment} {threshold : Float}
    {found : List Overload} (hs : p.schedule shifts = .ok s)
    (hfound : overloads p.calendar s resources assignments threshold = .ok found)
    (shifts' : Shifts n) :
    ∃ s' found', p.schedule shifts' = .ok s' ∧
      overloads p.calendar s' resources assignments threshold = .ok found' := by
  obtain ⟨s', hs'⟩ := exists_schedule (Network.isOrdered_of_ofProject hnet) hs shifts'
  obtain ⟨hthreshold, hcheck, -⟩ := overloads_eq_ok_iff.mp hfound
  rw [checkAssignments_congr (isNone_get?_schedule_congr hnet hs hs')] at hcheck
  exact ⟨s', _, hs', overloads_eq_ok_iff.mpr ⟨hthreshold, hcheck, rfl⟩⟩

end Keys

namespace Workload

variable {w : Workload n} {stage start : Stage n} {shifts : Shifts n} {cancelled : Bool}

/-! ## Runs -/

/-- A stage fails if the plan has no schedule, or if this cannot be searched for overloads. -/
theorem stage_eq_error_iff :
    w.stage shifts = .error e ↔ w.plan.schedule shifts = .error e ∨
      ∃ s, w.plan.schedule shifts = .ok s ∧ w.overloads s = .error e := by
  rw [Workload.stage, bind_eq_error_iff]
  refine or_congr_right (exists_congr fun s => and_congr_right fun _ => ?_)
  rw [bind_eq_error_iff]
  refine or_iff_left ?_
  rintro ⟨_, _, herror⟩
  cases herror

section Stage

variable (hnet : Network.ofProject w.plan.network.tasks dependencies = .ok w.plan.network)

include hnet

/-- If there is a stage under some shifts, there is one under any. -/
theorem exists_stage (hstage : w.stage shifts = .ok stage) (shifts' : Shifts n) :
    ∃ stage', w.stage shifts' = .ok stage' := by
  obtain ⟨-, hs, hfound⟩ := stage_eq_ok_iff.mp hstage
  obtain ⟨s', found', hs', hfound'⟩ := Plan.exists_overloads hnet hs hfound shifts'
  exact ⟨⟨shifts', s', found'⟩, stage_eq_ok_iff.mpr ⟨rfl, hs', hfound'⟩⟩

/-- If there is a stage under some shifts, a run from any stage gets through. It may start anywhere,
as every move leads to another stage; the one that is known to exist stays the same. -/
theorem exists_levelFrom (hstart : w.stage shifts = .ok start) (budget : Nat) (stage : Stage n) :
    ∃ run, w.levelFrom cancelled budget stage = .ok run := by
  induction budget generalizing stage with
  | zero => exact ⟨_, rfl⟩
  | succ budget ih =>
    rw [levelFrom]
    split
    · exact ⟨_, rfl⟩
    · split
      · exact ⟨_, rfl⟩
      · split
        · exact ⟨_, rfl⟩
        · next overload i _ =>
          obtain ⟨next, hnext⟩ := exists_stage hnet hstart (stage.shifts.add i Move.days)
          obtain ⟨rest, hrest⟩ := ih next
          refine ⟨.cons (w.move i overload stage next) rest, bind_eq_ok_iff.mpr ⟨next, hnext, ?_⟩⟩
          exact bind_eq_ok_iff.mpr ⟨rest, hrest, rfl⟩

/-- **A run of a workload fails exactly if there is no stage without shifts.** -/
theorem level_eq_error_iff {maxMoves : Nat} :
    w.level cancelled maxMoves = .error e ↔ w.stage (Shifts.none n) = .error e := by
  rw [level, bind_eq_error_iff]
  refine or_iff_left ?_
  rintro ⟨start, hstart, herror⟩
  obtain ⟨run, hrun⟩ := exists_levelFrom hnet hstart maxMoves start
  rw [hrun] at herror
  cases herror

end Stage

/-- Once its threshold is accepted, the workload of a project is known by its plan. -/
theorem ofProject_eq_map {c : Calendar} {tasks : Vector Task n} {resources : List Resource}
    {assignments : List Assignment} {settings : LevelingSettings}
    (h : checkThreshold settings.threshold = .ok ()) :
    ofProject c tasks dependencies resources assignments settings =
      (⟨·, resources, assignments, settings.threshold⟩) <$>
        Plan.ofProject c tasks dependencies settings.toSettings := by
  rw [ofProject, h]
  cases hp : Plan.ofProject c tasks dependencies settings.toSettings with
  | error e => rfl
  | ok p =>
    simp only [bind, Except.bind, ofPlan, h]
    rfl

end Workload

/-! ## Projects -/

section Project

variable {c : Calendar} {tasks : Vector Task n} {resources : List Resource}
  {assignments : List Assignment} {settings : LevelingSettings} {cancelled : Bool}

/-- Once its threshold is accepted, the leveling of a project fails where its schedule or the
search for overloads in this does. -/
theorem levelProject_eq_error_iff_of_threshold (h : checkThreshold settings.threshold = .ok ()) :
    levelProject c tasks dependencies resources assignments settings cancelled = .error e ↔
      scheduleProject c tasks dependencies settings.toSettings = .error e ∨
        ∃ s, scheduleProject c tasks dependencies settings.toSettings = .ok s ∧
          overloads c s resources assignments settings.threshold = .error e := by
  rw [levelProject, Workload.ofProject_eq_map h, scheduleProject]
  cases hp : Plan.ofProject c tasks dependencies settings.toSettings with
  | error e' => simp [bind, Except.bind, Functor.map, Except.map]
  | ok p =>
    obtain ⟨rfl, hnet, -⟩ := Plan.ofProject_eq_ok hp
    obtain rfl := Network.tasks_eq hnet
    let w : Workload n := ⟨p, resources, assignments, settings.threshold⟩
    change w.level cancelled settings.maxMoves = .error e ↔ _
    rw [Workload.level_eq_error_iff (w := w) hnet, Workload.stage_eq_error_iff]
    rfl

/-- **What makes the leveling of a project fail**: its threshold, else its schedule without
shifts, else the search for overloads in this schedule. Once these are passed nothing fails any
more: there is a schedule under any shifts, and it can be searched for overloads. -/
theorem levelProject_eq_error_iff :
    (levelProject c tasks dependencies resources assignments settings cancelled = .error e ↔
      checkThreshold settings.threshold = .error e ∨
        checkThreshold settings.threshold = .ok () ∧
          (scheduleProject c tasks dependencies settings.toSettings = .error e ∨
            ∃ s, scheduleProject c tasks dependencies settings.toSettings = .ok s ∧
              overloads c s resources assignments settings.threshold = .error e)) ∧
    ∀ p s found, Plan.ofProject c tasks dependencies settings.toSettings = .ok p →
      p.baseline = .ok s → overloads c s resources assignments settings.threshold = .ok found →
        ∀ shifts, ∃ s' found', p.schedule shifts = .ok s' ∧
          overloads c s' resources assignments settings.threshold = .ok found' := by
  refine ⟨?_, ?_⟩
  · cases hthreshold : checkThreshold settings.threshold with
    | error e' =>
      simp [levelProject, Workload.ofProject, hthreshold, bind, Except.bind]
    | ok u =>
      rw [levelProject_eq_error_iff_of_threshold hthreshold]
      simp
  · intro p s found hp hs hfound shifts
    obtain ⟨rfl, hnet, -⟩ := Plan.ofProject_eq_ok hp
    obtain rfl := Network.tasks_eq hnet
    exact Plan.exists_overloads hnet hs hfound shifts

end Project

namespace Sample

/-- An index that is not among the jobs cannot be printed; without it, the jobs can be shifted
at will. -/
theorem levelProject_eq_error_iff_sample :
    levelProject .standard jobs jobDependencies press
        (printing ++ [{ task := "index", resource := "press" }]) levelingSettings false =
      .error (.unknownTask "index") ∧
    ∃ p s found, Plan.ofProject .standard jobs jobDependencies levelingSettings.toSettings =
        .ok p ∧ p.baseline = .ok s ∧
      overloads .standard s press printing levelingSettings.threshold = .ok found ∧
      ∀ shifts, ∃ s' found', p.schedule shifts = .ok s' ∧
        overloads .standard s' press printing levelingSettings.threshold = .ok found' := by
  refine ⟨?_, ?_⟩
  · exact levelProject_eq_error_iff.1.mpr (Or.inr ⟨by rfl, Or.inr ⟨_, by rfl, by rfl⟩⟩)
  · obtain ⟨p, s, found, hp, hs, hfound⟩ : ∃ p s found,
        Plan.ofProject .standard jobs jobDependencies levelingSettings.toSettings = .ok p ∧
          p.baseline = .ok s ∧
          overloads .standard s press printing levelingSettings.threshold = .ok found :=
      ⟨_, _, _, by rfl, by rfl, by rfl⟩
    have hlevel : (levelProject .standard jobs jobDependencies press printing levelingSettings
        false = .error (.unknownTask "index") ↔ _) ∧ _ := levelProject_eq_error_iff
    exact ⟨p, s, found, hp, hs, hfound, hlevel.2 p s found hp hs hfound⟩

end Sample

end Workplan
