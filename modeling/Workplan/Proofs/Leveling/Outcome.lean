import Workplan.Proofs.Leveling.Replay

/-!
# Outcomes of leveling runs

A leveling run halts for one of four reasons, and its outcome tells which. It can be read off
the last stage, the number of moves and the wish to cancel, so it describes the final schedule
however many moves lead there; and so do the overloads that are listed at the end.

## Main definitions

* `IsTruthful`: a run with the overloads of its two ends, the count of its moves and its outcome

## Main results

* `HaltsBy.unique`, `outcome_eq_iff`: a run halts for exactly one reason, the one it tells
* `outcome_eq_cancelled_iff`: when a run is cancelled
* `level_outcome`: a leveling run tells the truth about its end
-/

namespace Workplan

variable {n : Nat}

namespace Workload

variable {w : Workload n} {dependencies : List Dependency} {cancelled : Bool} {budget : Nat}
  {stage : Stage n} {run : Run n} {outcome outcome' : Outcome}

/-! ## The reason to halt -/

/-- **A run halts for one reason only.** -/
theorem HaltsBy.unique (h : w.HaltsBy cancelled budget stage outcome)
    (h' : w.HaltsBy cancelled budget stage outcome') : outcome = outcome' := by
  cases outcome <;> cases outcome' <;> simp_all [HaltsBy]

/-- **A run halts for the reason it tells**, with the moves left that it has not made. -/
theorem IsRun.haltsBy (h : w.IsRun cancelled budget stage run) :
    ∃ left, run.moves.length + left = budget ∧ w.HaltsBy cancelled left run.final run.outcome := by
  induction h with
  | @halt budget stage outcome halts => exact ⟨budget, Nat.zero_add budget, halts⟩
  | cons _ _ _ _ ih =>
    obtain ⟨left, hleft, halts⟩ := ih
    exact ⟨left, (Nat.succ_add _ _).trans (congrArg (· + 1) hleft), halts⟩

theorem IsRun.outcome_eq_iff (h : w.IsRun cancelled budget stage run) :
    run.outcome = outcome ↔
      w.HaltsBy cancelled (budget - run.moves.length) run.final outcome := by
  obtain ⟨left, rfl, halts⟩ := h.haltsBy
  rw [Nat.add_sub_cancel_left]
  constructor
  · rintro rfl
    exact halts
  · exact halts.unique

theorem IsRun.length_moves_le (h : w.IsRun cancelled budget stage run) :
    run.moves.length ≤ budget := by
  obtain ⟨left, rfl, -⟩ := h.haltsBy
  exact Nat.le_add_right _ _

/-! ## Cancelled runs -/

/-- A cancelled run makes no move. -/
theorem IsRun.moves_eq_nil (h : w.IsRun true budget stage run) : run.moves = [] := by
  cases h with
  | halt => rfl
  | cons not_cancelled => cases not_cancelled

/-- A run without moves ends where it starts. -/
theorem IsRun.final_eq (h : w.IsRun cancelled budget stage run) (hmoves : run.moves = []) :
    run.final = stage := by
  cases h with
  | halt => rfl
  | cons => cases hmoves

/-- **A run is cancelled exactly if this is wished for while there is something to do.** The wish is
met before the first move, so that the stage at which such a run halts is the one that it begins
at. -/
theorem IsRun.outcome_eq_cancelled_iff (h : w.IsRun cancelled budget stage run) :
    run.outcome = .cancelled ↔ cancelled = true ∧ 0 < budget ∧ stage.overloads ≠ [] := by
  cases cancelled with
  | false => simp [h.outcome_eq_iff, HaltsBy]
  | true =>
    have hmoves := h.moves_eq_nil
    rw [h.outcome_eq_iff, h.final_eq hmoves, hmoves, HaltsBy]
    constructor
    · rintro ⟨hne, hpos, -⟩
      exact ⟨rfl, hpos, hne⟩
    · rintro ⟨-, hpos, hne⟩
      exact ⟨hne, hpos, rfl⟩

/-! ## Tasks that are left where they are -/

/-- If no task is chosen, none of the tasks of an overload is movable and has a start. -/
theorem not_isMovable_of_choose?_eq_none
    (hnet : Network.ofProject w.plan.network.tasks dependencies = .ok w.plan.network)
    (h : w.choose? stage = none) {overload : Overload} (hoverload : overload ∈ stage.overloads)
    {share : Share} (hshare : share ∈ overload.shares) {i : Fin n}
    (hi : (w.plan.task i).id = share.taskId) {start : Day}
    (hstart : (stage.schedule.get? (w.plan.task i).id).bind (·.earliestStart) = some start) :
    ¬ w.plan.IsMovable i := by
  intro hmovable
  have hposition : w.plan.network.position? share.taskId = some i :=
    (Network.position?_eq_some_iff hnet).mpr hi
  have hmem : (i, start) ∈ w.movable stage.schedule overload :=
    mem_movable.mpr ⟨share, hshare, hposition, movableStart?_eq_some_iff.mpr ⟨hmovable, hstart⟩⟩
  rw [choose?_eq_none_iff.mp h overload hoverload] at hmem
  cases hmem

end Workload

/-! ## The truth about a run -/

/-- A run that tells the truth: it lists the overloads of its two ends, counts its moves, and
its outcome is what these say. -/
structure IsTruthful (c : Calendar) (tasks : Vector Task n) (dependencies : List Dependency)
    (resources : List Resource) (assignments : List Assignment) (settings : LevelingSettings)
    (cancelled : Bool) (run : Run n) : Prop where
  iterations_eq : run.iterations = run.records.length
  iterations_le : run.iterations ≤ settings.maxMoves
  before : ∃ unshifted,
    scheduleProject c tasks dependencies settings.toSettings = .ok unshifted ∧
      overloads c unshifted resources assignments settings.threshold = .ok run.start.overloads
  after : overloads c run.final.schedule resources assignments settings.threshold =
    .ok run.final.overloads
  resolved_iff : run.outcome = .resolved ↔ run.final.overloads = []
  exhausted_iff : run.outcome = .exhausted ↔
    run.final.overloads ≠ [] ∧ run.iterations = settings.maxMoves
  cancelled_iff : run.outcome = .cancelled ↔
    cancelled = true ∧ 0 < settings.maxMoves ∧ run.start.overloads ≠ []
  records_eq_nil : run.outcome = .cancelled → run.records = []
  noCandidate_iff : run.outcome = .noCandidate ↔
    run.final.overloads ≠ [] ∧ run.iterations ≠ settings.maxMoves ∧
      ¬ (cancelled = true ∧ 0 < settings.maxMoves ∧ run.start.overloads ≠ [])
  /-- No task of a remaining overload has a start, no successor and no progress. -/
  not_movable : run.outcome = .noCandidate → ∀ overload ∈ run.final.overloads,
    ∀ share ∈ overload.shares, ∀ i, (tasks.get i).id = share.taskId →
      ∀ start, (run.final.schedule.get? share.taskId).bind (·.earliestStart) = some start →
        ¬ ((∀ d ∈ dependencies, d.predecessor ≠ share.taskId) ∧
          (tasks.get i).hasProgress = false)

/-- **A leveling run tells the truth about its end.** -/
theorem level_outcome {c : Calendar} {tasks : Vector Task n} {dependencies : List Dependency}
    {resources : List Resource} {assignments : List Assignment} {settings : LevelingSettings}
    {cancelled : Bool} {run : Run n}
    (h : levelProject c tasks dependencies resources assignments settings cancelled = .ok run) :
    IsTruthful c tasks dependencies resources assignments settings cancelled run := by
  obtain ⟨w, hp, rfl, rfl, hthreshold, start, hstart, hrun⟩ := Workload.levelProject_eq_ok h
  obtain ⟨rfl, hnet, -⟩ := Plan.ofProject_eq_ok hp
  obtain rfl := Network.tasks_eq hnet
  obtain rfl := hrun.start_eq
  have hcount := hrun.iterations_eq
  have hle := hrun.length_moves_le
  have hstage := Workload.stage_eq_ok_iff.mp hstart
  have hfinal := Workload.stage_eq_ok_iff.mp
    (hrun.trace.isReached (Workload.isReached_start hstart)).stage_eq
  have hresolved : run.outcome = .resolved ↔ run.final.overloads = [] := hrun.outcome_eq_iff
  have hexhausted : run.outcome = .exhausted ↔
      run.final.overloads ≠ [] ∧ run.iterations = settings.maxMoves := by
    rw [hrun.outcome_eq_iff, hcount]
    exact and_congr_right fun _ => by omega
  have hcancelled := hrun.outcome_eq_cancelled_iff
  exact {
    iterations_eq := by rw [hcount, Run.records, List.length_map]
    iterations_le := by rwa [hcount]
    before := by
      rw [← hthreshold]
      exact ⟨run.start.schedule,
        Plan.scheduleProject_eq_ok_iff.mpr ⟨w.plan, hp, hstage.2.1⟩, hstage.2.2⟩
    after := by
      rw [← hthreshold]
      exact hfinal.2.2
    resolved_iff := hresolved
    exhausted_iff := hexhausted
    cancelled_iff := hcancelled
    records_eq_nil := by
      intro h
      obtain ⟨rfl, -, -⟩ := hcancelled.mp h
      rw [Run.records, hrun.moves_eq_nil, List.map_nil]
    noCandidate_iff := by
      -- what is left when the three other outcomes are excluded
      have hother : run.outcome = .noCandidate ↔ run.outcome ≠ .resolved ∧
          run.outcome ≠ .exhausted ∧ run.outcome ≠ .cancelled := by
        cases run.outcome <;> decide
      rw [hother, Ne, Ne, Ne, hresolved, hexhausted, hcancelled]
      exact and_congr_right fun hne => and_congr_left' (not_congr (and_iff_right hne))
    not_movable := by
      rintro h overload hoverload share hshare i hi day hday ⟨hleaf, hprogress⟩
      obtain ⟨-, -, -, hchoose⟩ := hrun.outcome_eq_iff.mp h
      rw [← hi] at hday hleaf
      exact Workload.not_isMovable_of_choose?_eq_none hnet hchoose hoverload hshare hi hday
        ⟨(Network.outgoing_eq_nil_iff hnet).mpr hleaf, hprogress⟩ }

namespace Sample

/-- One move is not enough for the insert. -/
theorem level_outcome_sample :
    ∃ run, levelProject .standard jobs jobDependencies press printing
        { levelingSettings with maxMoves := 1 } false = .ok run ∧ run.outcome = .exhausted ∧
      IsTruthful .standard jobs jobDependencies press printing
        { levelingSettings with maxMoves := 1 } false run := by
  obtain ⟨run, hrun, houtcome⟩ : ∃ run, levelProject .standard jobs jobDependencies press
      printing { levelingSettings with maxMoves := 1 } false = .ok run ∧
        run.outcome = .exhausted := ⟨_, by rfl, by rfl⟩
  exact ⟨run, hrun, houtcome, level_outcome hrun⟩

end Sample

end Workplan
