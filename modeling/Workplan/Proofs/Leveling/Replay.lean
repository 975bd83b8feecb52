import Mathlib.Data.List.Chain
import Workplan.Proofs.Leveling.Trace
import Workplan.Proofs.Saturation

/-!
# Replaying a leveling run

The records of a leveling run tell everything about it: who counts how often each task is named
in them and shifts it by so many days gets the final schedule. Only tasks that nothing depends
on are moved, so no move disturbs the dates that another one recorded.

## Main definitions

* `Run.records`, `recordsOf`: the records of a run, and those that name a task
* `IsReplay`: what the records of a run say of its two ends

## Main results

* `IsReached.early_of_shifts`, `IsReached.early_of_isMovable`: the dates of a task at a stage
* `Trace.isChain`: the records of a task follow each other
* `Trace.shifts_get_eq_length`: the shifts of a stage count the records
* `level_replay`: a leveling run is the replay of its records
-/

namespace Workplan

variable {n : Nat}

/-- The records of the moves of a run. -/
def Run.records (run : Run n) : List ShiftRecord := run.moves.map (·.record)

/-- The records that name a task. -/
def recordsOf (records : List ShiftRecord) (id : String) : List ShiftRecord :=
  records.filter (·.taskId = id)

/-- What the records of a run say of the schedules at its two ends. -/
structure IsReplay (p : Plan n) (dependencies : List Dependency) (unshifted : Schedule)
    (records : List ShiftRecord) (final : Schedule) : Prop where
  /-- The final schedule is made anew from the number of records of each task. -/
  schedule_eq : p.schedule
    (Vector.ofFn fun i => ((recordsOf records (p.task i).id).length : Int)) = .ok final
  exists_task : ∀ r ∈ records, ∃ i, r.taskId = (p.task i).id
  isMovable : ∀ i, recordsOf records (p.task i).id ≠ [] →
    (∀ d ∈ dependencies, d.predecessor ≠ (p.task i).id) ∧ (p.task i).hasProgress = false
  moved : ∀ i, recordsOf records (p.task i).id ≠ [] →
    ∃ old, unshifted.early? (p.task i).id = some old ∧ final.early? (p.task i).id =
      some (p.calendar.spanFrom
        (p.calendar.offset old.start (recordsOf records (p.task i).id).length) (p.task i).days)
  kept : ∀ i, recordsOf records (p.task i).id = [] →
    final.early? (p.task i).id = unshifted.early? (p.task i).id
  /-- The first record of a task starts from its dates without shifts. -/
  first : ∀ i, ∀ r ∈ (recordsOf records (p.task i).id).head?,
    r.IsFrom (unshifted.early? (p.task i).id)
  /-- Each further record of a task starts where the one before it ends. -/
  chain : ∀ i, (recordsOf records (p.task i).id).IsChain fun r r' =>
    r'.oldStart = r.newStart ∧ r'.oldFinish = r.newFinish
  one_day : ∀ r ∈ records, ∃ start, r.oldStart = some start ∧
    r.newStart = some (p.calendar.offset start 1)

namespace Plan

variable {p : Plan n}

/-- A shift by one day more leads one working day on. -/
theorem shifted_add_one {start : Day} {shift : Int} (h : 0 ≤ shift) :
    p.shifted start (shift + 1) = p.calendar.offset (p.shifted start shift) 1 := by
  rw [shifted, if_neg (by omega)]
  unfold shifted
  split
  · next hzero => rw [hzero, Int.zero_add]
  · exact (Calendar.offset_offset h (by decide)).symm

end Plan

namespace Workload

variable {w : Workload n} {dependencies : List Dependency} {stage stage' start final : Stage n}
  {moves : List (Move n)} {i : Fin n} {old : Span}

section Network

variable (hnet : Network.ofProject w.plan.network.tasks dependencies = .ok w.plan.network)

include hnet

/-! ## Dates at a stage -/

theorem IsReached.early?_eq (hstage : w.IsReached stage) (i : Fin n) :
    stage.schedule.early? (w.plan.task i).id = (w.plan.early stage.shifts).get i :=
  Plan.early?_schedule hnet hstage.schedule_eq i

omit hnet in
/-- Two stages differ in the shifts of movable tasks only. -/
theorem IsReached.outgoing_eq_nil (hstage : w.IsReached stage) (hstage' : w.IsReached stage')
    (j : Fin n) (hne : stage'.shifts.get j ≠ stage.shifts.get j) :
    w.plan.network.outgoing j = [] := by
  by_cases hzero : stage.shifts.get j = 0
  · exact (hstage'.isMovable j (hzero ▸ hne)).1
  · exact (hstage.isMovable j hzero).1

/-- **A task that is shifted alike has the same dates at two stages**, whatever the others. -/
theorem IsReached.early_of_shifts (hstage : w.IsReached stage) (hstage' : w.IsReached stage')
    (hi : stage'.shifts.get i = stage.shifts.get i) :
    stage'.schedule.early? (w.plan.task i).id = stage.schedule.early? (w.plan.task i).id := by
  rw [hstage.early?_eq hnet, hstage'.early?_eq hnet]
  exact Plan.early_eq_of_outgoing_eq_nil (Network.isOrdered_of_ofProject hnet)
    (hstage.outgoing_eq_nil hstage') hi

/-- **A movable task has its days from its start without shifts on**, moved by its shift. Nothing
depends on the tasks that are shifted, so that the shifts of the others leave the bounds of this one
where they were. -/
theorem IsReached.early_of_isMovable (hstart : w.stage (Shifts.none n) = .ok start)
    (hstage : w.IsReached stage) (hi : w.plan.IsMovable i)
    (hold : start.schedule.early? (w.plan.task i).id = some old) :
    stage.schedule.early? (w.plan.task i).id =
      some (w.plan.calendar.spanFrom (w.plan.shifted old.start (stage.shifts.get i))
        (w.plan.task i).days) := by
  have h := Network.isOrdered_of_ofProject hnet
  have hreached := isReached_start hstart
  have hshifts : start.shifts = Shifts.none n := (stage_eq_ok_iff.mp hstart).1
  have hrec := Task.isUnrecorded_of_hasProgress hi.2
  rw [hreached.early?_eq hnet, hshifts] at hold
  obtain ⟨own, hown⟩ := (Plan.isPlanned_iff h stage.shifts).mp
    ((Plan.isPlanned_iff h _).mpr ⟨old, hold⟩)
  have hleaves : ∀ j, stage.shifts.get j ≠ (Shifts.none n).get j →
      w.plan.network.outgoing j = [] := hshifts ▸ hreached.outgoing_eq_nil hstage
  have hbounds := Plan.startBounds_eq_of_outgoing_eq_nil h hleaves i
  rw [hstage.early?_eq hnet, hown, (Plan.early_cases h hrec hown).1,
    Plan.start_eq_shifted h hrec (hstage.nonneg i) hbounds hold hown]

/-! ## Records -/

/-- A record tells the dates of its task at both ends of the move. -/
theorem IsStep.record_dates {move : Move n} (hmove : w.IsStep move) :
    move.record.IsFrom (move.source.schedule.early? (w.plan.task move.task).id) ∧
      move.record.IsTo (move.target.schedule.early? (w.plan.task move.task).id) := by
  rw [hmove.record_eq]
  exact Plan.dates_between hnet hmove.isReached.schedule_eq hmove.isReached_target.schedule_eq _ _
    _ _

/-- **The records of a task follow each other**, from its dates at the first stage on. A move of the
task leads to the dates that its next record starts from, and the moves of others in between leave
them as they are. -/
theorem Trace.isChain (h : w.Trace stage moves final) (hstage : w.IsReached stage) (j : Fin n) :
    (∀ r ∈ ((moves.filter (·.task = j)).map (·.record)).head?,
      r.IsFrom (stage.schedule.early? (w.plan.task j).id)) ∧
    ((moves.filter (·.task = j)).map (·.record)).IsChain fun r r' =>
      r'.oldStart = r.newStart ∧ r'.oldFinish = r.newFinish := by
  induction h with
  | nil => exact ⟨nofun, .nil⟩
  | @cons stage next final overload i moves hchoose hnext _ ih =>
    have hreached := hstage.step hchoose hnext
    have hmove : w.IsStep (w.move i overload stage next) := ⟨hstage, hchoose, hnext, rfl⟩
    obtain ⟨hfirst, hchain⟩ := ih hreached
    by_cases hi : i = j
    · subst hi
      obtain ⟨hfrom, hto⟩ := hmove.record_dates hnet
      rw [List.filter_cons_of_pos (by simp [move]), List.map_cons]
      refine ⟨?_, ?_⟩
      · intro r hr
        cases hr
        exact hfrom
      · refine List.isChain_cons.mpr ⟨fun r hr => ?_, hchain⟩
        obtain ⟨hstart, hfinish⟩ := hfirst r hr
        exact ⟨hstart.trans hto.1.symm, hfinish.trans hto.2.symm⟩
    · rw [List.filter_cons_of_neg (by simp [move, hi])]
      have hsame : next.shifts.get j = stage.shifts.get j := by
        rw [get_shifts_next hnext, if_neg hi, Int.add_zero]
      rw [hstage.early_of_shifts hnet hreached hsame] at hfirst
      exact ⟨hfirst, hchain⟩

/-- A task that is moved has dates at the stage without shifts. It has some where it is moved from,
and shifts do not change which tasks have any. -/
theorem IsStep.exists_unshifted (hstart : w.stage (Shifts.none n) = .ok start) {move : Move n}
    (hmove : w.IsStep move) :
    ∃ old, start.schedule.early? (w.plan.task move.task).id = some old := by
  have h := Network.isOrdered_of_ofProject hnet
  obtain ⟨-, -, day, hday⟩ := choose?_eq_some hmove.choose?_eq
  rw [Plan.earliestStart_schedule hnet hmove.isReached.schedule_eq,
    hmove.isReached.early?_eq hnet, Option.map_eq_some_iff] at hday
  obtain ⟨own, hown, -⟩ := hday
  rw [(isReached_start hstart).early?_eq hnet, ← Option.isSome_iff_exists,
    Plan.isSome_early_congr h start.shifts move.source.shifts, hown]
  rfl

/-- **A record tells of a shift by one working day.** -/
theorem IsStep.one_day (hstart : w.stage (Shifts.none n) = .ok start) {move : Move n}
    (hmove : w.IsStep move) : ∃ day, move.record.oldStart = some day ∧
      move.record.newStart = some (w.plan.calendar.offset day 1) := by
  obtain ⟨old, hold⟩ := hmove.exists_unshifted hnet hstart
  obtain ⟨-, hmovable, -⟩ := choose?_eq_some hmove.choose?_eq
  obtain ⟨⟨hfrom, -⟩, ⟨hto, -⟩⟩ := hmove.record_dates hnet
  rw [hmove.isReached.early_of_isMovable hnet hstart hmovable hold] at hfrom
  rw [hmove.isReached_target.early_of_isMovable hnet hstart hmovable hold,
    get_shifts_next hmove.target_eq, if_pos rfl,
    Plan.shifted_add_one (hmove.isReached.nonneg move.task)] at hto
  exact ⟨_, hfrom, hto⟩

/-- The records that name a task are those of its moves, since an id is that of a single task. -/
theorem recordsOf_eq (hmoves : ∀ move ∈ moves, w.IsStep move) (i : Fin n) :
    recordsOf (moves.map (·.record)) (w.plan.task i).id =
      (moves.filter (·.task = i)).map (·.record) := by
  rw [recordsOf, List.filter_map]
  refine congrArg _ (List.filter_congr fun move hmove => ?_)
  have hid : move.record.taskId = (w.plan.task move.task).id := by
    rw [(hmoves move hmove).record_eq]
    rfl
  simp only [Function.comp_apply, hid, decide_eq_decide]
  exact (Network.id_injective hnet).eq_iff

/-- A task that is named in a record is moved. -/
theorem exists_move_of_recordsOf_ne_nil (hmoves : ∀ move ∈ moves, w.IsStep move)
    (h : recordsOf (moves.map (·.record)) (w.plan.task i).id ≠ []) :
    ∃ move ∈ moves, move.task = i := by
  rw [recordsOf_eq hnet hmoves, Ne, List.map_eq_nil_iff] at h
  obtain ⟨move, hmem⟩ := List.exists_mem_of_ne_nil _ h
  obtain ⟨hmove, htask⟩ := List.mem_filter.mp hmem
  exact ⟨move, hmove, of_decide_eq_true htask⟩

/-- **A task is shifted by as many days as there are records of it.** -/
theorem Trace.shifts_get_eq_length (h : w.Trace start moves final)
    (hstart : w.stage (Shifts.none n) = .ok start) (i : Fin n) : final.shifts.get i =
      ((recordsOf (moves.map (·.record)) (w.plan.task i).id).length : Int) := by
  rw [recordsOf_eq hnet (h.isStep (isReached_start hstart)), List.length_map,
    ← List.countP_eq_length_filter, h.shifts_get, (stage_eq_ok_iff.mp hstart).1, Plan.get_none,
    Int.zero_add]

/-- Counted over the records, the shifts are those of the last stage. -/
theorem Trace.shifts_eq (h : w.Trace start moves final)
    (hstart : w.stage (Shifts.none n) = .ok start) : (Vector.ofFn fun i =>
      ((recordsOf (moves.map (·.record)) (w.plan.task i).id).length : Int)) = final.shifts := by
  ext k hk
  rw [Vector.getElem_ofFn]
  exact (h.shifts_get_eq_length hnet hstart ⟨k, hk⟩).symm

/-- **A trace from the stage without shifts is the replay of its records.** -/
theorem Trace.isReplay (h : w.Trace start moves final)
    (hstart : w.stage (Shifts.none n) = .ok start) :
    IsReplay w.plan dependencies start.schedule (moves.map (·.record)) final.schedule := by
  have hreached := isReached_start hstart
  have hfinal := h.isReached hreached
  have hmoves := h.isStep hreached
  have hshifts := h.shifts_get_eq_length hnet hstart
  -- the shift of a task is the number of its records, so a task with records is shifted
  have hne : ∀ i, recordsOf (moves.map (·.record)) (w.plan.task i).id ≠ [] →
      final.shifts.get i ≠ 0 := by
    intro i hrecords
    rw [hshifts]
    exact Int.natCast_ne_zero.mpr (List.length_eq_zero_iff.not.mpr hrecords)
  exact {
    schedule_eq := by
      rw [h.shifts_eq hnet hstart]
      exact hfinal.schedule_eq
    exists_task := by
      intro r hr
      obtain ⟨move, hmove, rfl⟩ := List.mem_map.mp hr
      exact ⟨move.task, congrArg ShiftRecord.taskId (hmoves move hmove).record_eq⟩
    isMovable := by
      intro i hrecords
      obtain ⟨hleaf, hprogress⟩ := hfinal.isMovable i (hne i hrecords)
      exact ⟨(Network.outgoing_eq_nil_iff hnet).mp hleaf, hprogress⟩
    moved := by
      intro i hrecords
      obtain ⟨move, hmove, rfl⟩ := exists_move_of_recordsOf_ne_nil hnet hmoves hrecords
      obtain ⟨old, hold⟩ := (hmoves move hmove).exists_unshifted hnet hstart
      have hdates := hfinal.early_of_isMovable hnet hstart
        (hfinal.isMovable _ (hne _ hrecords)) hold
      rw [Plan.shifted, if_neg (hne _ hrecords), hshifts] at hdates
      exact ⟨old, hold, hdates⟩
    kept := by
      intro i hnil
      refine hreached.early_of_shifts hnet hfinal ?_
      rw [hshifts i, hnil, (stage_eq_ok_iff.mp hstart).1, Plan.get_none]
      rfl
    first := by
      intro i
      rw [recordsOf_eq hnet hmoves]
      exact (h.isChain hnet hreached i).1
    chain := by
      intro i
      rw [recordsOf_eq hnet hmoves]
      exact (h.isChain hnet hreached i).2
    one_day := by
      intro r hr
      obtain ⟨move, hmove, rfl⟩ := List.mem_map.mp hr
      exact (hmoves move hmove).one_day hnet hstart }

end Network

end Workload

/-! ## The replay -/

/-- **A leveling run is the replay of its records.** -/
theorem level_replay {c : Calendar} {tasks : Vector Task n} {dependencies : List Dependency}
    {resources : List Resource} {assignments : List Assignment} {settings : LevelingSettings}
    {cancelled : Bool} {run : Run n}
    (h : levelProject c tasks dependencies resources assignments settings cancelled = .ok run) :
    ∃ p unshifted, Plan.ofProject c tasks dependencies settings.toSettings = .ok p ∧
      p.baseline = .ok unshifted ∧
        IsReplay p dependencies unshifted run.records run.final.schedule := by
  obtain ⟨w, hp, -, -, -, start, hstart, hrun⟩ := Workload.levelProject_eq_ok h
  obtain ⟨rfl, hnet, -⟩ := Plan.ofProject_eq_ok hp
  obtain rfl := Network.tasks_eq hnet
  exact ⟨w.plan, start.schedule, hp, (Workload.stage_eq_ok_iff.mp hstart).2.1,
    hrun.trace.isReplay hnet hstart⟩

namespace Sample

/-- After the layout, the press prints a cover and an insert, two days each. -/
def jobs : Vector Task 3 :=
  #v[{ id := "layout", duration := some 1 }, { id := "cover", duration := some 2 },
    { id := "insert", duration := some 2, priority := 90 }]

def jobDependencies : List Dependency := [⟨"layout", "cover", {}⟩, ⟨"layout", "insert", {}⟩]

def press : List Resource := [{ id := "press" }]

def printing : List Assignment :=
  [{ task := "cover", resource := "press" }, { task := "insert", resource := "press" }]

def levelingSettings : LevelingSettings := { projectStart := some monday }

/-- The insert is moved twice, until the cover is printed. -/
theorem level_replay_sample :
    ∃ run, levelProject .standard jobs jobDependencies press printing levelingSettings false =
        .ok run ∧ run.moves.map (·.task) = [2, 2] ∧
      ∃ p unshifted, Plan.ofProject .standard jobs jobDependencies levelingSettings.toSettings =
        .ok p ∧ p.baseline = .ok unshifted ∧
          IsReplay p jobDependencies unshifted run.records run.final.schedule := by
  obtain ⟨run, hrun, hmoves⟩ : ∃ run, levelProject .standard jobs jobDependencies press printing
      levelingSettings false = .ok run ∧ run.moves.map (·.task) = [2, 2] :=
    ⟨_, by rfl, by rfl⟩
  exact ⟨run, hrun, hmoves, level_replay hrun⟩

end Sample

end Workplan
