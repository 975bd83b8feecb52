import Workplan.Proofs.Leveling.Failure
import Workplan.Proofs.Leveling.Outcome

/-!
# Budgets of leveling runs

A leveling run looks at its budget only to tell whether another move is allowed, never to choose
one. So a run with a larger budget begins with the same moves, and it goes on from where the
other one ends only if the budget was all that held this back.

## Main definitions

* `Run.IsExtendedBy`: what a larger budget makes of a run

## Main results

* `IsRun.eq_halt`: where a run can halt, it halts
* `IsRun.extend`: one more move or many, a run with a larger budget begins alike
* `level_budget`: a larger budget only extends a leveling run
-/

namespace Workplan

variable {n : Nat}

/-- **What a larger budget makes of a run**: it starts from the same stage and its records come
first, as many as its budget allows if this is exhausted; if it is not, the run is the same. -/
structure Run.IsExtendedBy (run : Run n) (budget : Nat) (extended : Run n) : Prop where
  start_eq : run.start = extended.start
  records : run.records <+: extended.records
  length_records : run.outcome = .exhausted → run.records.length = budget
  eq_of_not_exhausted : run.outcome ≠ .exhausted → run = extended

namespace Workload

variable {w : Workload n} {cancelled : Bool} {budget extra : Nat} {stage : Stage n}
  {overload : Overload} {i : Fin n} {run run' : Run n} {outcome : Outcome}

/-! ## Halting with a larger budget -/

/-- A run does not halt where a move is chosen and allowed. -/
theorem not_haltsBy_of_choose? (not_cancelled : cancelled = false)
    (hchoose : w.choose? stage = some (overload, i)) :
    ¬ w.HaltsBy cancelled (budget + 1) stage outcome := by
  have hne : stage.overloads ≠ [] := List.ne_nil_of_mem (choose?_eq_some hchoose).1
  intro halts
  cases outcome with
  | resolved => exact hne halts
  | exhausted => exact absurd halts.2 (Nat.succ_ne_zero budget)
  | noCandidate =>
    obtain ⟨-, -, -, hnone⟩ := halts
    exact absurd (hchoose.symm.trans hnone) (Option.some_ne_none _)
  | cancelled =>
    obtain ⟨-, -, hcancelled⟩ := halts
    exact absurd (not_cancelled.symm.trans hcancelled) Bool.false_ne_true

/-- A reason to halt that is not an exhausted budget remains one with a larger budget. -/
theorem HaltsBy.extend (halts : w.HaltsBy cancelled budget stage outcome)
    (hne : outcome ≠ .exhausted) (extra : Nat) :
    w.HaltsBy cancelled (budget + extra) stage outcome := by
  cases outcome with
  | resolved => exact halts
  | exhausted => exact absurd rfl hne
  | noCandidate => exact ⟨halts.1, Nat.add_pos_left halts.2.1 extra, halts.2.2⟩
  | cancelled => exact ⟨halts.1, Nat.add_pos_left halts.2.1 extra, halts.2.2⟩

/-- **Where a run can halt, it halts.** -/
theorem IsRun.eq_halt (h : w.IsRun cancelled budget stage run)
    (halts : w.HaltsBy cancelled budget stage outcome) : run = .halt stage outcome := by
  cases h with
  | halt halts' => rw [halts.unique halts']
  | cons not_cancelled hchoose _ _ =>
    exact absurd halts (not_haltsBy_of_choose? not_cancelled hchoose)

/-! ## Runs with a larger budget -/

/-- **A run with a larger budget begins alike**, and is the same if the smaller one suffices. What
is chosen at a stage does not depend on the moves that are left, so that as long as both runs go on,
they make the same move to the same stage. The induction is on the run with the smaller budget. -/
theorem IsRun.extend (h : w.IsRun cancelled budget stage run)
    (h' : w.IsRun cancelled (budget + extra) stage run') :
    run.moves <+: run'.moves ∧ (run.outcome ≠ .exhausted → run = run') := by
  induction h generalizing run' with
  | halt halts =>
    refine ⟨List.nil_prefix, ?_⟩
    intro hne
    exact (h'.eq_halt (halts.extend hne extra)).symm
  | cons not_cancelled hchoose hnext _ ih =>
    rw [Nat.add_right_comm] at h'
    cases h' with
    | halt halts => exact absurd halts (not_haltsBy_of_choose? not_cancelled hchoose)
    | cons _ hchoose' hnext' hrest =>
      cases hchoose.symm.trans hchoose'
      cases hnext.symm.trans hnext'
      obtain ⟨hmoves, heq⟩ := ih hrest
      refine ⟨(List.prefix_cons_inj _).mpr hmoves, ?_⟩
      intro hne
      rw [heq hne]

/-- A run that exhausts its budget makes as many moves as this allows. -/
theorem IsRun.length_moves_of_exhausted (h : w.IsRun cancelled budget stage run)
    (hexhausted : run.outcome = .exhausted) : run.moves.length = budget := by
  obtain ⟨left, hleft, halts⟩ := h.haltsBy
  rw [hexhausted] at halts
  rw [← hleft, halts.2, Nat.add_zero]

theorem IsRun.isExtendedBy (h : w.IsRun cancelled budget stage run)
    (h' : w.IsRun cancelled (budget + extra) stage run') : run.IsExtendedBy budget run' where
  start_eq := h.start_eq.trans h'.start_eq.symm
  records := (h.extend h').1.map _
  length_records hexhausted := by
    rw [Run.records, List.length_map]
    exact h.length_moves_of_exhausted hexhausted
  eq_of_not_exhausted := (h.extend h').2

end Workload

/-! ## Projects -/

/-- **A larger budget only extends a leveling run.** Either the leveling of a project is refused
with both budgets, for the same reason, or the run with the larger budget extends the one with
the smaller. -/
theorem level_budget {budget budget' : Nat} (hle : budget ≤ budget') (c : Calendar)
    (tasks : Vector Task n) (dependencies : List Dependency) (resources : List Resource)
    (assignments : List Assignment) (settings : LevelingSettings) (cancelled : Bool) :
    (∃ e,
      levelProject c tasks dependencies resources assignments
        { settings with maxMoves := budget } cancelled = .error e ∧
      levelProject c tasks dependencies resources assignments
        { settings with maxMoves := budget' } cancelled = .error e) ∨
    ∃ run run',
      levelProject c tasks dependencies resources assignments
        { settings with maxMoves := budget } cancelled = .ok run ∧
      levelProject c tasks dependencies resources assignments
        { settings with maxMoves := budget' } cancelled = .ok run' ∧
      run.IsExtendedBy budget run' := by
  obtain ⟨extra, rfl⟩ := Nat.exists_eq_add_of_le hle
  -- the workload does not depend on the budget
  have hlevel : ∀ maxMoves, levelProject c tasks dependencies resources assignments
      { settings with maxMoves := maxMoves } cancelled =
        Workload.ofProject c tasks dependencies resources assignments settings >>= fun w =>
          w.level cancelled maxMoves := fun _ => rfl
  rw [hlevel, hlevel]
  cases hw : Workload.ofProject c tasks dependencies resources assignments settings with
  | error e => exact Or.inl ⟨e, rfl, rfl⟩
  | ok w =>
    obtain ⟨-, hnet, -⟩ := Plan.ofProject_eq_ok (Workload.ofProject_eq_ok hw).1
    obtain rfl := Network.tasks_eq hnet
    cases hstart : w.stage (Shifts.none n) with
    | error e =>
      exact Or.inl ⟨e, (Workload.level_eq_error_iff hnet).mpr hstart,
        (Workload.level_eq_error_iff hnet).mpr hstart⟩
    | ok start =>
      have hruns : ∀ maxMoves, ∃ run, w.levelFrom cancelled maxMoves start = .ok run :=
        fun maxMoves => Workload.exists_levelFrom hnet hstart maxMoves start
      obtain ⟨run, hrun⟩ := hruns budget
      obtain ⟨run', hrun'⟩ := hruns (budget + extra)
      have hlevelEq : ∀ {maxMoves run}, w.levelFrom cancelled maxMoves start = .ok run →
          w.level cancelled maxMoves = .ok run := fun h => bind_eq_ok_iff.mpr ⟨start, hstart, h⟩
      exact Or.inr ⟨run, run', hlevelEq hrun, hlevelEq hrun',
        (Workload.isRun_of_levelFrom hrun).isExtendedBy (Workload.isRun_of_levelFrom hrun')⟩

namespace Sample

/-- One move leaves the insert on the day of the cover; the run that is allowed the second one
begins with it. -/
theorem level_budget_sample :
    ∃ run run', levelProject .standard jobs jobDependencies press printing
        { levelingSettings with maxMoves := 1 } false = .ok run ∧
      levelProject .standard jobs jobDependencies press printing
        { levelingSettings with maxMoves := 60 } false = .ok run' ∧
      run.outcome = .exhausted ∧ run'.outcome = .resolved ∧ run.IsExtendedBy 1 run' := by
  have hruns := level_budget (show 1 ≤ 60 by decide) .standard jobs jobDependencies press printing
    levelingSettings false
  obtain ⟨run, hrun, houtcome⟩ : ∃ run, levelProject .standard jobs jobDependencies press
      printing { levelingSettings with maxMoves := 1 } false = .ok run ∧
        run.outcome = .exhausted := ⟨_, by rfl, by rfl⟩
  obtain ⟨run', hrun', houtcome'⟩ : ∃ run', levelProject .standard jobs jobDependencies press
      printing { levelingSettings with maxMoves := 60 } false = .ok run' ∧
        run'.outcome = .resolved := ⟨_, by rfl, by rfl⟩
  rw [hrun, hrun'] at hruns
  rcases hruns with ⟨e, herror, -⟩ | ⟨_, _, heq, heq', hextended⟩
  · cases herror
  · cases heq
    cases heq'
    exact ⟨run, run', hrun, hrun', houtcome, houtcome', hextended⟩

end Sample

end Workplan
