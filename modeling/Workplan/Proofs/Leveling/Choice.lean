import Workplan.Proofs.Leveling.Replay
import Workplan.Proofs.ResultOrder

/-!
# What a leveling run moves

Every move of a leveling run is the best one at the schedule that the moves before it lead to. The
overloads of that schedule are taken up by how bad they are, and equally bad ones in the order of
their list, as the ranking is stable; those that are passed over have no task that could be moved.
Of the tasks of the overload that is taken, the one to move precedes all others, so that the order
of the shares does not matter. None of these tasks has progress, and so the comparison of progress
tells none of them apart.

## Main definitions

* `Overload.IsWorse`, `Overload.IsTakenUpBefore`: which of two overloads is taken up first
* `Overload.CanMove`: the tasks of an overload that can be moved, with their starts
* `Task.MovesBefore`: which of two tasks is moved first
* `IsBestMove`: the best move at a schedule with its overloads

## Main results

* `cheapest?_eq_some_iff`: the task to move precedes all others that can be moved
* `pairwise_worstFirst`: an overload is not taken up before one in front of it
* `level_moves_best`: every move of a leveling run is the best one where it is made
-/

namespace Workplan

variable {n : Nat}

/-! ## The best move -/

/-- Is an overload worse than another one? The larger one is, and of equally large ones the one with
more shares. -/
def Overload.IsWorse (a b : Overload) : Prop :=
  b.total < a.total ∨ b.total == a.total ∧ b.shares.length < a.shares.length

/-- Is an overload of a list taken up before another one? Worse ones are, and equally bad ones that
are listed before it. -/
def Overload.IsTakenUpBefore (found : List Overload) (a b : Overload) : Prop :=
  a.IsWorse b ∨
    b.total == a.total ∧ a.shares.length = b.shares.length ∧ [a, b].Sublist found

/-- **A task of an overload that can be moved**, with its start: nothing depends on it, and it has
no progress. -/
@[mk_iff]
structure Overload.CanMove (o : Overload) (tasks : Vector Task n) (dependencies : List Dependency)
    (schedule : Schedule) (i : Fin n) (start : Day) : Prop where
  mem_shares : ∃ share ∈ o.shares, share.taskId = (tasks.get i).id
  isLast : ∀ d ∈ dependencies, d.predecessor ≠ (tasks.get i).id
  hasProgress_eq : (tasks.get i).hasProgress = false
  start_eq : (schedule.get? (tasks.get i).id).bind (·.earliestStart) = some start

/-- Is a task with its start moved before another one? The one with the higher priority number is,
then the one that starts earlier, and then the one with the lesser id. -/
def Task.MovesBefore (t : Task) (start : Day) (t' : Task) (start' : Day) : Prop :=
  t'.priority < t.priority ∨ t'.priority = t.priority ∧
    (start < start' ∨ start = start' ∧ t.id < t'.id)

/-- **The best move at a schedule**: the task is the first to be moved of those of its overload, and
the overload is the first to be taken up of those with such a task. -/
structure IsBestMove (tasks : Vector Task n) (dependencies : List Dependency) (schedule : Schedule)
    (found : List Overload) (o : Overload) (i : Fin n) : Prop where
  mem_found : o ∈ found
  worst : ∀ o' ∈ found, o'.IsTakenUpBefore found o →
    ∀ j start, ¬ o'.CanMove tasks dependencies schedule j start
  cheapest : ∃ start, o.CanMove tasks dependencies schedule i start ∧
    ∀ j start', o.CanMove tasks dependencies schedule j start' → j ≠ i →
      (tasks.get i).MovesBefore start (tasks.get j) start'
  /-- The task is planned around the day of the overload. -/
  around : ∃ early, schedule.early? (tasks.get i).id = some early ∧
    early.start ≤ o.day ∧ o.day ≤ early.finish

/-! ## The worst overload -/

/-- Two entries of a list without repeats do not stand both ways round. -/
theorem not_sublist_swap {α : Type} {l : List α} {a b : α} (h : l.Nodup)
    (hab : [a, b].Sublist l) : ¬ [b, a].Sublist l := by
  obtain ⟨front, back, hl, ha, hb⟩ := List.cons_sublist_iff.mp hab
  intro hba
  obtain ⟨front', back', hl', hb', ha'⟩ := List.cons_sublist_iff.mp hba
  rw [List.singleton_sublist] at hb ha'
  have hdisjoint := List.disjoint_of_nodup_append (hl ▸ h)
  have hdisjoint' := List.disjoint_of_nodup_append (hl' ▸ h)
  -- the longer of the two fronts holds both entries, and the back behind it one of them again
  rcases List.append_eq_append_iff.mp (hl.symm.trans hl') with ⟨more, rfl, -⟩ | ⟨more, rfl, -⟩
  · exact hdisjoint' (List.mem_append_left _ ha) ha'
  · exact hdisjoint (List.mem_append_left _ hb') hb

namespace Overload

/-- The comparison of how bad overloads are, with percentages compared by their keys. -/
def badnessCompare (a b : Overload) : Ordering :=
  (compare (percentKey b.total) (percentKey a.total)).then
    (compare b.shares.length a.shares.length)

instance : Std.TransCmp badnessCompare :=
  inferInstanceAs (Std.TransCmp (compareLex
    (fun a b => compareOn (fun o : Overload => percentKey o.total) b a)
    (fun a b => compareOn (fun o : Overload => o.shares.length) b a)))

variable {a b : Overload} (ha : ¬ a.total.isNaN) (hb : ¬ b.total.isNaN)

include ha hb

theorem isWorse_eq_badnessCompare : a.isWorse b = (a.badnessCompare b).isLT := by
  rw [isWorse, comparePercent_eq_compare hb ha, badnessCompare]

theorem badnessCompare_eq_lt_iff : a.badnessCompare b = .lt ↔ a.IsWorse b := by
  rw [IsWorse, lt_iff_percentKey_lt hb ha, beq_iff_percentKey_eq hb ha, badnessCompare]
  simp only [Ordering.then_eq_lt, compare_lt_iff_lt, compare_eq_iff_eq]

/-- An overload that stands behind another one is not taken up before it. It is no worse, and if the
two are equally bad, it was found later. -/
theorem not_isTakenUpBefore {found : List Overload} (hnodup : found.Nodup)
    (h : StandsBefore (fun a b => (badnessCompare a b).isLT) (fun a b => [a, b].Sublist found)
      a b) : ¬ b.IsTakenUpBefore found a := by
  simp only [StandsBefore, Ordering.isLT_iff_eq_lt] at h
  rintro (hworse | ⟨htotal, hlength, hlisted⟩)
  · rw [← badnessCompare_eq_lt_iff hb ha] at hworse
    rcases h with hlt | ⟨hnot, -⟩
    · exact Std.OrientedCmp.not_lt_of_lt hlt hworse
    · exact hnot hworse
  · rcases h with hlt | ⟨-, hlisted'⟩
    · rw [beq_iff_percentKey_eq ha hb] at htotal
      rw [badnessCompare, htotal, hlength] at hlt
      simp at hlt
    · exact not_sublist_swap hnodup hlisted' hlisted

omit hb in
theorem not_isTakenUpBefore_self {found : List Overload} (hnodup : found.Nodup) :
    ¬ a.IsTakenUpBefore found a := by
  rintro (hworse | ⟨-, -, hlisted⟩)
  · rw [← badnessCompare_eq_lt_iff ha ha] at hworse
    exact Std.OrientedCmp.not_lt_of_lt hworse hworse
  · exact List.nodup_iff_sublist.mp hnodup a hlisted

end Overload

section Found

variable {c : Calendar} {schedule : Schedule} {resources : List Resource}
  {assignments : List Assignment} {threshold : Float} {found : List Overload} {o : Overload}
  (hfound : overloads c schedule resources assignments threshold = .ok found)

include hfound

/-- A share is that of a task that is planned around the day of the overload. -/
theorem exists_early_of_mem_shares (ho : o ∈ found) {share : Share} (hshare : share ∈ o.shares) :
    ∃ early, schedule.early? share.taskId = some early ∧ early.start ≤ o.day ∧
      o.day ≤ early.finish := by
  obtain ⟨-, -, rfl⟩ := overloads_eq_ok_iff.mp hfound
  obtain ⟨slot, hslot⟩ := exists_slot_of_mem_overloadsAt (.refl _) (mem_ranked.mp ho)
  obtain ⟨a, ha, htask⟩ := exists_of_mem_shares hslot hshare
  obtain ⟨-, -, -, -, -, early, hearly, haround⟩ := mem_contributions.mp ha
  rw [(slot_of_overload? hslot).2, ← htask]
  exact ⟨early, hearly, haround⟩

variable (hpercent : ∀ a ∈ assignments, ¬ a.percent.isNaN)

include hpercent

theorem nodup_of_overloads : found.Nodup := by
  obtain ⟨-, -, rfl⟩ := overloads_eq_ok_iff.mp hfound
  exact (inOrder_overloadsAmong (.refl _) hpercent).nodup.of_map

theorem not_isNaN_total (ho : o ∈ found) : ¬ o.total.isNaN := by
  obtain ⟨-, -, rfl⟩ := overloads_eq_ok_iff.mp hfound
  exact not_isNaN_of_mem_overloadsAt (.refl _) hpercent o (mem_ranked.mp ho)

/-- **An overload is not taken up before one in front of it.** The ranking is stable, and of two
overloads that are equally bad the one found first makes a sublist with the other behind it. -/
theorem pairwise_worstFirst : (ranked Overload.isWorse found).Pairwise fun a b =>
    ¬ b.IsTakenUpBefore found a := by
  have hnumber : ∀ {o}, o ∈ found → ¬ o.total.isNaN := not_isNaN_total hfound hpercent
  rw [ranked_congr fun a ha b hb => Overload.isWorse_eq_badnessCompare (hnumber ha) (hnumber hb)]
  have hstands : (ranked (fun a b => (Overload.badnessCompare a b).isLT) found).Pairwise
      (StandsBefore (fun a b => (Overload.badnessCompare a b).isLT)
        fun a b => [a, b].Sublist found) :=
    pairwise_standsBefore_ranked isRanking_isLT (List.pairwise_iff_forall_sublist.mpr id)
  refine hstands.imp_of_mem fun ha hb hab => ?_
  exact Overload.not_isTakenUpBefore (hnumber (mem_ranked.mp ha)) (hnumber (mem_ranked.mp hb))
    (nodup_of_overloads hfound hpercent) hab

/-- What is taken up before an overload is in front of it. -/
theorem mem_front_of_isTakenUpBefore {front back : List Overload} {o' : Overload}
    (hranked : ranked Overload.isWorse found = front ++ o :: back) (ho' : o' ∈ found)
    (hbefore : o'.IsTakenUpBefore found o) : o' ∈ front := by
  have hordered := pairwise_worstFirst hfound hpercent
  rw [hranked, List.pairwise_append, List.pairwise_cons] at hordered
  have hmem : o' ∈ front ++ o :: back := hranked ▸ mem_ranked.mpr ho'
  rcases List.mem_append.mp hmem with hfront | hrest
  · exact hfront
  · rcases List.mem_cons.mp hrest with rfl | hback
    · exact absurd hbefore (Overload.not_isTakenUpBefore_self
        (not_isNaN_total hfound hpercent ho') (nodup_of_overloads hfound hpercent))
    · exact absurd hbefore (hordered.2.1.1 o' hback)

end Found

namespace Workload

variable {w : Workload n} {dependencies : List Dependency} {stage : Stage n} {schedule : Schedule}
  {o : Overload} {i : Fin n}

/-! ## The cheapest task -/

/-- The comparison of tasks with their starts, without their progress. -/
def moveCompare (w : Workload n) (a b : Fin n × Day) : Ordering :=
  ((compare (w.plan.task b.1).priority (w.plan.task a.1).priority).then (compare a.2 b.2)).then
    (compare (w.plan.task a.1).id (w.plan.task b.1).id)

instance : Std.TransCmp w.moveCompare :=
  inferInstanceAs (Std.TransCmp (compareLex (compareLex
    (fun a b => compareOn (fun a : Fin n × Day => (w.plan.task a.1).priority) b a)
    (compareOn Prod.snd)) (compareOn fun a : Fin n × Day => (w.plan.task a.1).id)))

theorem moveCompare_eq_lt_iff {a b : Fin n × Day} :
    w.moveCompare a b = .lt ↔ (w.plan.task a.1).MovesBefore a.2 (w.plan.task b.1) b.2 := by
  simp only [moveCompare, Task.MovesBefore, Ordering.then_assoc, Ordering.then_eq_lt,
    compare_lt_iff_lt, compare_eq_iff_eq]

/-- Tasks without progress are not told apart by it, unless it is out of its range. -/
theorem comparePercent_progress {t u : Task} (ht : 0.0 ≤ t.progress) (hu : 0.0 ≤ u.progress)
    (ht' : t.hasProgress = false) (hu' : u.hasProgress = false) :
    comparePercent t.progress u.progress = .eq := by
  simp only [Task.hasProgress, Bool.or_eq_false_iff, decide_eq_false_iff_not] at ht' hu'
  have hkey := percentKey_eq_of_le_of_not_lt ht ht'.1.1.2
  have hkey' := percentKey_eq_of_le_of_not_lt hu hu'.1.1.2
  rw [comparePercent_eq_compare (not_isNaN_of_le ht).2 (not_isNaN_of_le hu).2, ← hkey, ← hkey']
  exact compare_eq_iff_eq.mpr rfl

section Network

variable (hnet : Network.ofProject w.plan.network.tasks dependencies = .ok w.plan.network)

include hnet

theorem mem_movable_iff_canMove {start : Day} : (i, start) ∈ w.movable schedule o ↔
    o.CanMove w.plan.network.tasks dependencies schedule i start := by
  rw [mem_movable, movableStart?_eq_some_iff, Plan.IsMovable, Network.outgoing_eq_nil_iff hnet]
  constructor
  · rintro ⟨share, hshare, hposition, ⟨hlast, hprogress⟩, hstart⟩
    have hid := (Network.position?_eq_some_iff hnet).mp hposition
    exact ⟨⟨share, hshare, hid.symm⟩, hlast, hprogress, hstart⟩
  · rintro ⟨⟨share, hshare, hid⟩, hlast, hprogress, hstart⟩
    have hposition := (Network.position?_eq_some_iff hnet).mpr hid.symm
    exact ⟨share, hshare, hposition, ⟨hlast, hprogress⟩, hstart⟩

/-- A task is listed with one start. -/
theorem eq_of_mem_movable {a b : Fin n × Day} (ha : a ∈ w.movable schedule o)
    (hb : b ∈ w.movable schedule o) (htask : a.1 = b.1) : a = b := by
  obtain ⟨j, start⟩ := a
  obtain ⟨k, start'⟩ := b
  cases htask
  have hstart := ((mem_movable_iff_canMove hnet).mp ha).start_eq
  rw [((mem_movable_iff_canMove hnet).mp hb).start_eq] at hstart
  cases hstart
  rfl

variable (hprogress : ∀ i, 0.0 ≤ (w.plan.task i).progress)

include hprogress

theorem isCheaper_eq_moveCompare {a b : Fin n × Day} (ha : a ∈ w.movable schedule o)
    (hb : b ∈ w.movable schedule o) : w.isCheaper a b = (w.moveCompare a b).isLT := by
  rw [isCheaper, comparePercent_progress (hprogress a.1) (hprogress b.1)
    ((mem_movable_iff_canMove hnet).mp ha).hasProgress_eq
    ((mem_movable_iff_canMove hnet).mp hb).hasProgress_eq]
  rfl

/-- The first of the movable tasks is moved before all others. Two entries of the list are the same
if their tasks are, since the start of a task is that in the schedule. -/
theorem leader?_movable_eq_some_iff {a : Fin n × Day} :
    leader? w.isCheaper (w.movable schedule o) = some a ↔
      a ∈ w.movable schedule o ∧ ∀ b ∈ w.movable schedule o, b.1 ≠ a.1 →
        (w.plan.task a.1).MovesBefore a.2 (w.plan.task b.1) b.2 := by
  have hcmp : ∀ a ∈ w.movable schedule o, ∀ b ∈ w.movable schedule o,
      w.isCheaper a b = (w.moveCompare a b).isLT := fun a ha b hb =>
    isCheaper_eq_moveCompare hnet hprogress ha hb
  have hkey : ∀ a b, w.moveCompare a b = .eq → a.1 = b.1 := fun a b heq =>
    Network.id_injective hnet (compare_eq_iff_eq.mp (Ordering.then_eq_eq.mp heq).2)
  rw [leader?_eq_some_iff hcmp hkey fun a ha b hb => eq_of_mem_movable hnet ha hb]
  refine and_congr_right fun ha => forall₂_congr fun b hb => ?_
  rw [hcmp a ha b hb, Ordering.isLT_iff_eq_lt, moveCompare_eq_lt_iff]
  refine imp_congr_left (not_congr ⟨congrArg Prod.fst, eq_of_mem_movable hnet hb ha⟩)

/-- **The task to move precedes all others that can be moved.** -/
theorem cheapest?_eq_some_iff : w.cheapest? schedule o = some i ↔
    ∃ start, o.CanMove w.plan.network.tasks dependencies schedule i start ∧
      ∀ j start', o.CanMove w.plan.network.tasks dependencies schedule j start' → j ≠ i →
        (w.plan.task i).MovesBefore start (w.plan.task j) start' := by
  simp only [cheapest?, Option.map_eq_some_iff, leader?_movable_eq_some_iff hnet hprogress,
    Prod.exists, Prod.forall, mem_movable_iff_canMove hnet]
  constructor
  · rintro ⟨_, start, hleast, rfl⟩
    exact ⟨start, hleast⟩
  · rintro ⟨start, hleast⟩
    exact ⟨i, start, hleast, rfl⟩

/-- **The order of the shares does not matter** for the task to move. -/
theorem cheapest?_of_perm {shares : List Share} (hperm : shares.Perm o.shares) :
    w.cheapest? schedule { o with shares := shares } = w.cheapest? schedule o := by
  refine Option.ext fun i => ?_
  rw [cheapest?_eq_some_iff hnet hprogress, cheapest?_eq_some_iff hnet hprogress]
  simp only [Overload.canMove_iff, hperm.mem_iff]

/-- **What is chosen is the best move.** The overloads that are taken up before the chosen one stand
in front of it and were passed over, which is to say that none of their tasks can be moved. -/
theorem isBestMove_of_choose? (hfound : w.overloads stage.schedule = .ok stage.overloads)
    (hpercent : ∀ a ∈ w.assignments, ¬ a.percent.isNaN) (h : w.choose? stage = some (o, i)) :
    IsBestMove w.plan.network.tasks dependencies stage.schedule stage.overloads o i := by
  have ho := (choose?_eq_some h).1
  obtain ⟨hcheapest, front, back, hranked, hfront⟩ := choose?_split h
  obtain ⟨start, hcan, hleast⟩ := (cheapest?_eq_some_iff hnet hprogress).mp hcheapest
  refine ⟨ho, fun o' ho' hbefore j day hcan' => ?_, ⟨start, hcan, hleast⟩, ?_⟩
  · have hmem : o' ∈ front := mem_front_of_isTakenUpBefore hfound hpercent hranked ho' hbefore
    have hmovable := (mem_movable_iff_canMove hnet).mpr hcan'
    rw [hfront o' hmem] at hmovable
    cases hmovable
  · obtain ⟨share, hshare, hid⟩ := hcan.mem_shares
    rw [← hid]
    exact exists_early_of_mem_shares hfound ho hshare

end Network

/-- The moves of a trace up to one of them lead to where it starts. -/
theorem Trace.of_append {start final : Stage n} {front back : List (Move n)} {move : Move n}
    (h : w.Trace start (front ++ move :: back) final) : w.Trace start front move.source := by
  induction front generalizing start with
  | nil =>
    cases h
    exact .nil _
  | cons first front ih =>
    cases h with
    | cons hchoose hnext rest => exact .cons hchoose hnext (ih rest)

end Workload

/-! ## Runs -/

/-- **Every move of a leveling run is the best one** at the schedule that the moves before it lead
to, in whatever order the tasks of its overload are listed. -/
theorem level_moves_best {c : Calendar} {tasks : Vector Task n} {dependencies : List Dependency}
    {resources : List Resource} {assignments : List Assignment} {settings : LevelingSettings}
    {cancelled : Bool} {run : Run n}
    (h : levelProject c tasks dependencies resources assignments settings cancelled = .ok run)
    (hprogress : ∀ i, 0.0 ≤ (tasks.get i).progress)
    (hpercent : ∀ a ∈ assignments, ¬ a.percent.isNaN) :
    ∃ p, Plan.ofProject c tasks dependencies settings.toSettings = .ok p ∧
      ∀ before record after, run.records = before ++ record :: after →
        ∃ schedule found o i,
          p.schedule (Vector.ofFn fun i =>
            ((recordsOf before (tasks.get i).id).length : Int)) = .ok schedule ∧
          overloads c schedule resources assignments settings.threshold = .ok found ∧
          record.taskId = (tasks.get i).id ∧ record.cause = some o ∧
          IsBestMove tasks dependencies schedule found o i ∧
          ∀ shares, shares.Perm o.shares →
            Workload.cheapest? ⟨p, resources, assignments, settings.threshold⟩ schedule
              { o with shares := shares } = some i := by
  obtain ⟨w, hp, rfl, rfl, hthreshold, start, hstart, hrun⟩ := Workload.levelProject_eq_ok h
  obtain ⟨rfl, hnet, -⟩ := Plan.ofProject_eq_ok hp
  obtain rfl := Network.tasks_eq hnet
  refine ⟨w.plan, hp, fun before record after hrecords => ?_⟩
  -- the record is that of a move, with the moves of the records before it in front
  obtain ⟨front, back, hmoves, rfl, hback⟩ := List.map_eq_append_iff.mp hrecords
  obtain ⟨move, back, rfl, rfl, rfl⟩ := List.map_eq_cons_iff.mp hback
  have htrace := hrun.trace
  rw [hmoves] at htrace
  have hstep := htrace.isStep (Workload.isReached_start hstart) move (by simp)
  have hbefore := htrace.of_append
  have hfound := (Workload.stage_eq_ok_iff.mp hstep.isReached.stage_eq).2.2
  have hbest := Workload.isBestMove_of_choose? hnet hprogress hfound hpercent hstep.choose?_eq
  refine ⟨move.source.schedule, move.source.overloads, move.overload, move.task, ?_, ?_, ?_, ?_,
    hbest, ?_⟩
  · exact (congrArg w.plan.schedule (hbefore.shifts_eq hnet hstart)).trans
      hstep.isReached.schedule_eq
  · rw [← hthreshold]
    exact hfound
  · exact congrArg ShiftRecord.taskId hstep.record_eq
  · exact congrArg ShiftRecord.cause hstep.record_eq
  · intro shares hperm
    rw [← hthreshold]
    exact (Workload.cheapest?_of_perm hnet hprogress hperm).trans
      ((Workload.cheapest?_eq_some_iff hnet hprogress).mpr hbest.cheapest)

namespace Sample

/-- Cover and insert both wait for the press; the insert is the less important one. -/
theorem level_moves_best_sample :
    ∃ run, levelProject .standard jobs jobDependencies press printing levelingSettings false =
        .ok run ∧ run.moves.map (·.task) = [2, 2] ∧
      (∀ i, 0.0 ≤ (jobs.get i).progress) ∧ (∀ a ∈ printing, ¬ a.percent.isNaN) ∧
      ∃ p, Plan.ofProject .standard jobs jobDependencies levelingSettings.toSettings = .ok p ∧
        ∀ before record after, run.records = before ++ record :: after →
          ∃ schedule found o i,
            p.schedule (Vector.ofFn fun i =>
              ((recordsOf before (jobs.get i).id).length : Int)) = .ok schedule ∧
            overloads .standard schedule press printing levelingSettings.threshold = .ok found ∧
            record.taskId = (jobs.get i).id ∧ record.cause = some o ∧
            IsBestMove jobs jobDependencies schedule found o i ∧
            ∀ shares, shares.Perm o.shares →
              Workload.cheapest? ⟨p, press, printing, levelingSettings.threshold⟩ schedule
                { o with shares := shares } = some i := by
  obtain ⟨run, hrun, hmoves⟩ : ∃ run, levelProject .standard jobs jobDependencies press printing
      levelingSettings false = .ok run ∧ run.moves.map (·.task) = [2, 2] :=
    ⟨_, by rfl, by rfl⟩
  have hprogress : ∀ i, 0.0 ≤ (jobs.get i).progress := by decide
  have hpercent : ∀ a ∈ printing, ¬ a.percent.isNaN := by decide
  exact ⟨run, hrun, hmoves, hprogress, hpercent, level_moves_best hrun hprogress hpercent⟩

end Sample

end Workplan
