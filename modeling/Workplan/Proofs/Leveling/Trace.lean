import Workplan.Leveling
import Workplan.Proofs.Shift

/-!
# Traces of leveling runs

A leveling run is a trace: each of its moves leads from one stage to the next, and moves the
task that is chosen there, until a stage is reached at which the run halts. A chosen task is
movable, so whatever stage a trace reaches, only movable tasks are shifted in it, and none of
them to an earlier day.

## Main definitions

* `Plan.IsMovable`: nothing depends on the task and it has no progress
* `Workload.IsReached`, `Workload.IsStep`: what every stage and every move of a trace is
* `Workload.Trace`: the moves from one stage to another
* `Workload.HaltsBy`, `Workload.IsRun`: where a run halts, and the runs from a stage

## Main results

* `choose?_eq_none_iff`, `choose?_split`: when no task is chosen, and which one otherwise
* `IsReached.step`, `Trace.isReached`: what a step keeps, a whole trace keeps
* `Trace.shifts_get`: a task is shifted as often as it is moved
* `levelProject_eq_ok`, `IsRun.trace`: what leveling gives is a run, and a run is a trace
-/

namespace Workplan

variable {n : Nat}

/-- Nothing depends on the task and it has no progress. -/
def Plan.IsMovable (p : Plan n) (i : Fin n) : Prop :=
  p.network.outgoing i = [] ∧ (p.task i).hasProgress = false

/-- A task without progress has no recorded days. -/
theorem Task.isUnrecorded_of_hasProgress {t : Task} (h : t.hasProgress = false) :
    t.IsUnrecorded := by
  simp only [hasProgress, Bool.or_eq_false_iff, Option.isSome_eq_false_iff,
    Option.isNone_iff_eq_none] at h
  exact ⟨h.1.1.1.1, h.1.1.1.2⟩

namespace Workload

variable {w : Workload n} {stage next final : Stage n} {schedule : Schedule}
  {overload : Overload} {i : Fin n} {moves : List (Move n)} {cancelled : Bool} {budget : Nat}
  {run : Run n}

/-! ## The chosen task -/

theorem movableStart?_eq_some_iff {start : Day} :
    w.movableStart? schedule i = some start ↔ w.plan.IsMovable i ∧
      (schedule.get? (w.plan.task i).id).bind (·.earliestStart) = some start := by
  rw [movableStart?, Plan.IsMovable, Network.hasSuccessors_eq]
  cases w.plan.network.outgoing i <;> cases (w.plan.task i).hasProgress <;> simp

theorem mem_movable {start : Day} :
    (i, start) ∈ w.movable schedule overload ↔ ∃ share ∈ overload.shares,
      w.plan.network.position? share.taskId = some i ∧
        w.movableStart? schedule i = some start := by
  simp only [movable, List.mem_filterMap, Option.bind_eq_bind, Option.pure_def,
    Option.bind_eq_some_iff, Option.some.injEq, Prod.mk.injEq]
  constructor
  · rintro ⟨share, hshare, j, hj, start', hstart, rfl, rfl⟩
    exact ⟨share, hshare, hj, hstart⟩
  · rintro ⟨share, hshare, hi, hstart⟩
    exact ⟨share, hshare, i, hi, start, hstart, rfl, rfl⟩

theorem cheapest?_eq_none_iff :
    w.cheapest? schedule overload = none ↔ w.movable schedule overload = [] := by
  rw [cheapest?, Option.map_eq_none_iff, leader?_eq_none_iff]

theorem exists_mem_movable (h : w.cheapest? schedule overload = some i) :
    ∃ start, (i, start) ∈ w.movable schedule overload := by
  obtain ⟨⟨j, start⟩, hleader, rfl⟩ := Option.map_eq_some_iff.mp h
  exact ⟨start, mem_of_leader? hleader⟩

/-- **No task is chosen exactly if no overload has a movable task.** -/
theorem choose?_eq_none_iff :
    w.choose? stage = none ↔ ∀ overload ∈ stage.overloads,
      w.movable stage.schedule overload = [] := by
  simp only [choose?, List.findSome?_eq_none_iff, Stage.worstFirst, mem_ranked,
    Option.map_eq_none_iff, cheapest?_eq_none_iff]

/-- **The chosen task is the cheapest one of its overload**, and the overloads that are taken up
before have no movable task. -/
theorem choose?_split (h : w.choose? stage = some (overload, i)) :
    w.cheapest? stage.schedule overload = some i ∧
      ∃ front back, stage.worstFirst = front ++ overload :: back ∧
        ∀ o ∈ front, w.movable stage.schedule o = [] := by
  obtain ⟨front, _, back, hranked, hchosen, hfront⟩ := List.findSome?_eq_some_iff.mp h
  obtain ⟨_, hcheapest, heq⟩ := Option.map_eq_some_iff.mp hchosen
  cases heq
  refine ⟨hcheapest, front, back, hranked, fun o ho => ?_⟩
  rw [← cheapest?_eq_none_iff, ← Option.map_eq_none_iff]
  exact hfront o ho

/-- The chosen task is movable and has a start, and it is one of the tasks of an overload. -/
theorem choose?_eq_some (h : w.choose? stage = some (overload, i)) :
    overload ∈ stage.overloads ∧ w.plan.IsMovable i ∧ ∃ start,
      (stage.schedule.get? (w.plan.task i).id).bind (·.earliestStart) = some start := by
  obtain ⟨hcheapest, front, back, hranked, -⟩ := choose?_split h
  have hmem : overload ∈ stage.worstFirst :=
    hranked ▸ List.mem_append_right _ List.mem_cons_self
  obtain ⟨start, hmovable⟩ := exists_mem_movable hcheapest
  obtain ⟨-, -, -, hstart⟩ := mem_movable.mp hmovable
  obtain ⟨hi, hstart⟩ := movableStart?_eq_some_iff.mp hstart
  exact ⟨mem_ranked.mp hmem, hi, start, hstart⟩

/-! ## Stages -/

/-- What the stage of some shifts is made of. -/
theorem stage_eq_ok_iff {shifts : Shifts n} :
    w.stage shifts = .ok stage ↔ stage.shifts = shifts ∧
      w.plan.schedule shifts = .ok stage.schedule ∧
        w.overloads stage.schedule = .ok stage.overloads := by
  simp only [Workload.stage, bind_eq_ok_iff]
  constructor
  · rintro ⟨schedule, hs, overloads, ho, heq⟩
    cases heq
    exact ⟨rfl, hs, ho⟩
  · rintro ⟨rfl, hs, ho⟩
    exact ⟨stage.schedule, hs, stage.overloads, ho, rfl⟩

/-- A move shifts its task by one more day, and no other. -/
theorem get_shifts_next (h : w.stage (stage.shifts.add i Move.days) = .ok next) (j : Fin n) :
    next.shifts.get j = stage.shifts.get j + if i = j then 1 else 0 := by
  rw [(stage_eq_ok_iff.mp h).1, Plan.get_add, Move.days]
  split
  · next heq => rw [heq]
  · rw [Int.add_zero]

/-- **What every stage of a leveling run keeps**: it is the stage of its shifts, and only
movable tasks are shifted in it, none of them to an earlier day. -/
structure IsReached (w : Workload n) (stage : Stage n) : Prop where
  stage_eq : w.stage stage.shifts = .ok stage
  nonneg : ∀ i, 0 ≤ stage.shifts.get i
  isMovable : ∀ i, stage.shifts.get i ≠ 0 → w.plan.IsMovable i

theorem IsReached.schedule_eq (hstage : w.IsReached stage) :
    w.plan.schedule stage.shifts = .ok stage.schedule :=
  (stage_eq_ok_iff.mp hstage.stage_eq).2.1

theorem isReached_start (h : w.stage (Shifts.none n) = .ok stage) : w.IsReached stage := by
  have hshifts := (stage_eq_ok_iff.mp h).1
  refine ⟨by rwa [hshifts], ?_, ?_⟩
  · intro i
    rw [hshifts, Plan.get_none]
  · intro i hne
    rw [hshifts, Plan.get_none] at hne
    exact absurd rfl hne

/-- A move leads on to a reached stage. -/
theorem IsReached.step (hstage : w.IsReached stage)
    (hchoose : w.choose? stage = some (overload, i))
    (hnext : w.stage (stage.shifts.add i Move.days) = .ok next) : w.IsReached next := by
  refine ⟨by rwa [(stage_eq_ok_iff.mp hnext).1], ?_, ?_⟩
  · intro j
    have hj := hstage.nonneg j
    rw [get_shifts_next hnext]
    split <;> omega
  · intro j hne
    rw [get_shifts_next hnext] at hne
    split at hne
    · next heq => exact heq ▸ (choose?_eq_some hchoose).2.1
    · rw [Int.add_zero] at hne
      exact hstage.isMovable j hne

/-! ## Traces -/

/-- **The moves from one stage to another**, each of the task that is chosen where it starts. -/
inductive Trace (w : Workload n) : Stage n → List (Move n) → Stage n → Prop
  | nil (stage : Stage n) : Trace w stage [] stage
  | cons {stage next final : Stage n} {overload : Overload} {i : Fin n} {moves : List (Move n)}
      (choose?_eq : w.choose? stage = some (overload, i))
      (next_eq : w.stage (stage.shifts.add i Move.days) = .ok next)
      (rest : Trace w next moves final) :
      Trace w stage (w.move i overload stage next :: moves) final

/-- **What a step keeps, a whole trace keeps.** -/
theorem Trace.isReached (h : w.Trace stage moves final) (hstage : w.IsReached stage) :
    w.IsReached final := by
  induction h with
  | nil => exact hstage
  | cons hchoose hnext _ ih => exact ih (hstage.step hchoose hnext)

/-- A move of the task that is chosen at a reached stage. -/
structure IsStep (w : Workload n) (move : Move n) : Prop where
  isReached : w.IsReached move.source
  choose?_eq : w.choose? move.source = some (move.overload, move.task)
  target_eq : w.stage (move.source.shifts.add move.task Move.days) = .ok move.target
  record_eq : move.record =
    (w.move move.task move.overload move.source move.target).record

theorem IsStep.isReached_target {move : Move n} (h : w.IsStep move) : w.IsReached move.target :=
  h.isReached.step h.choose?_eq h.target_eq

/-- All moves of a trace are steps. -/
theorem Trace.isStep (h : w.Trace stage moves final) (hstage : w.IsReached stage) :
    ∀ move ∈ moves, w.IsStep move := by
  induction h with
  | nil => exact List.forall_mem_nil _
  | cons hchoose hnext _ ih =>
    refine List.forall_mem_cons.mpr ⟨⟨hstage, hchoose, hnext, rfl⟩, ?_⟩
    exact ih (hstage.step hchoose hnext)

/-- **A task is shifted as often as it is moved.** -/
theorem Trace.shifts_get (h : w.Trace stage moves final) (j : Fin n) :
    final.shifts.get j = stage.shifts.get j + (moves.countP (·.task = j) : Nat) := by
  induction h with
  | nil => exact (Int.add_zero _).symm
  | @cons stage next final overload i moves _ hnext _ ih =>
    have hcount : (w.move i overload stage next :: moves).countP (·.task = j) =
        moves.countP (·.task = j) + if i = j then 1 else 0 := by
      simp [List.countP_cons, move]
    rw [ih, get_shifts_next hnext, hcount]
    split <;> omega

/-! ## Runs -/

/-- Why a run halts at a stage with a number of moves left. -/
def HaltsBy (w : Workload n) (cancelled : Bool) (budget : Nat) (stage : Stage n) : Outcome → Prop
  | .resolved => stage.overloads = []
  | .exhausted => stage.overloads ≠ [] ∧ budget = 0
  | .cancelled => stage.overloads ≠ [] ∧ 0 < budget ∧ cancelled = true
  | .noCandidate =>
    stage.overloads ≠ [] ∧ 0 < budget ∧ cancelled = false ∧ w.choose? stage = none

/-- **The runs from a stage**: they halt there, or they move the task that is chosen there and
go on from where that leads. -/
inductive IsRun (w : Workload n) (cancelled : Bool) : Nat → Stage n → Run n → Prop
  | halt {budget : Nat} {stage : Stage n} {outcome : Outcome}
      (halts : w.HaltsBy cancelled budget stage outcome) :
      IsRun w cancelled budget stage (.halt stage outcome)
  | cons {budget : Nat} {stage next : Stage n} {overload : Overload} {i : Fin n} {rest : Run n}
      (not_cancelled : cancelled = false)
      (choose?_eq : w.choose? stage = some (overload, i))
      (next_eq : w.stage (stage.shifts.add i Move.days) = .ok next)
      (isRun_rest : IsRun w cancelled budget next rest) :
      IsRun w cancelled (budget + 1) stage (.cons (w.move i overload stage next) rest)

/-- What leveling gives is a run, from whatever stage it begins at. -/
theorem isRun_of_levelFrom (h : w.levelFrom cancelled budget stage = .ok run) :
    w.IsRun cancelled budget stage run := by
  induction budget generalizing stage run with
  | zero =>
    cases h
    split
    · next hnil => exact .halt (List.isEmpty_iff.mp hnil)
    · next hne => exact .halt ⟨mt List.isEmpty_iff.mpr hne, rfl⟩
  | succ budget ih =>
    rw [levelFrom] at h
    split at h
    · next hnil =>
      cases h
      exact .halt (List.isEmpty_iff.mp hnil)
    · next hne =>
      have hne : stage.overloads ≠ [] := mt List.isEmpty_iff.mpr hne
      split at h
      · next hcancelled =>
        cases h
        exact .halt ⟨hne, Nat.succ_pos budget, hcancelled⟩
      · next hgo =>
        have hgo : cancelled = false := Bool.eq_false_iff.mpr hgo
        split at h
        · next hchoose =>
          cases h
          exact .halt ⟨hne, Nat.succ_pos budget, hgo, hchoose⟩
        · next overload i hchoose =>
          obtain ⟨next, hnext, h⟩ := bind_eq_ok_iff.mp h
          obtain ⟨rest, hrest, h⟩ := bind_eq_ok_iff.mp h
          cases h
          exact .cons hgo hchoose hnext (ih hrest)

theorem IsRun.start_eq (h : w.IsRun cancelled budget stage run) : run.start = stage := by
  cases h <;> rfl

/-- **A run is a trace** from its first to its last stage. -/
theorem IsRun.trace (h : w.IsRun cancelled budget stage run) :
    w.Trace stage run.moves run.final := by
  induction h with
  | halt => exact .nil _
  | cons _ hchoose hnext _ ih => exact .cons hchoose hnext ih

/-- A run counts its moves. -/
theorem IsRun.iterations_eq (h : w.IsRun cancelled budget stage run) :
    run.iterations = run.moves.length := by
  induction h with
  | halt => rfl
  | cons _ _ _ _ ih => exact congrArg (· + 1) ih

section Project

variable {c : Calendar} {tasks : Vector Task n} {dependencies : List Dependency}
  {resources : List Resource} {assignments : List Assignment} {settings : LevelingSettings}

/-- **What the workload of a project is made of.** -/
theorem ofProject_eq_ok
    (h : ofProject c tasks dependencies resources assignments settings = .ok w) :
    Plan.ofProject c tasks dependencies settings.toSettings = .ok w.plan ∧
      w.resources = resources ∧ w.assignments = assignments ∧ w.threshold = settings.threshold := by
  obtain ⟨-, -, h⟩ := bind_eq_ok_iff.mp h
  obtain ⟨p, hp, h⟩ := bind_eq_ok_iff.mp h
  obtain ⟨-, -, h⟩ := bind_eq_ok_iff.mp h
  cases h
  exact ⟨hp, rfl, rfl, rfl⟩

/-- A leveling run on a project is a run of its workload from the stage without shifts. -/
theorem levelProject_eq_ok
    (h : levelProject c tasks dependencies resources assignments settings cancelled = .ok run) :
    ∃ w : Workload n, Plan.ofProject c tasks dependencies settings.toSettings = .ok w.plan ∧
      w.resources = resources ∧ w.assignments = assignments ∧
      w.threshold = settings.threshold ∧ ∃ start, w.stage (Shifts.none n) = .ok start ∧
        w.IsRun cancelled settings.maxMoves start run := by
  obtain ⟨w, hw, h⟩ := bind_eq_ok_iff.mp h
  obtain ⟨start, hstart, hrun⟩ := bind_eq_ok_iff.mp h
  obtain ⟨hp, hresources, hassignments, hthreshold⟩ := ofProject_eq_ok hw
  exact ⟨w, hp, hresources, hassignments, hthreshold, start, hstart, isRun_of_levelFrom hrun⟩

end Project

end Workload

end Workplan
