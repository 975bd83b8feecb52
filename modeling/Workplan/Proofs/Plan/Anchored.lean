import Mathlib.Data.List.Chain
import Workplan.Proofs.Plan.Schedule
import Workplan.Proofs.Plan.Walk
import Workplan.Proofs.Ranking

/-!
# Which tasks get dates

A task needs a duration to get dates, and something to count from: a day of its own, the start of
the project, or a predecessor with dates. So dates spread along the dependencies from the tasks
with an anchor, through tasks with a duration, and shifts have no part in this. Late dates are
given to the same tasks as early ones.

## Main definitions

* `Task.HasAnchor`: a day to count from that is not a predecessor's
* `IsAnchoredPath`: a path of dependencies along which dates spread to a task
* `Timing.HasDatesIff`: all dates and the slack are there, or none of them

## Main results

* `isSome_early_iff`: one step, what a task gets dates from
* `exists_isAnchoredPath_iff`: the same step for the paths
* `isSome_early_iff_exists_path`: the tasks with dates are those at the end of a path
* `leastId_spec`: the task that is named if there are none
* `dates_iff_anchored`: which tasks of a project get dates, and when its plan is refused
-/

namespace Workplan

variable {n : Nat} {tasks : Vector Task n} {dependencies : List Dependency}
  {projectStart : Option Day} {i : Fin n}

/-- A task with a day of its own to count from, or any task if the project has a start. -/
def Task.HasAnchor (t : Task) (projectStart : Option Day) : Prop :=
  t.anchor.isSome ∨ t.began.isSome ∨ t.ended.isSome ∨ projectStart.isSome

instance (t : Task) (projectStart : Option Day) : Decidable (t.HasAnchor projectStart) :=
  inferInstanceAs (Decidable (_ ∨ _))

/-! ## Paths -/

/-- **A path of dependencies along which dates spread to a task**: from one with an anchor,
through tasks with a duration. -/
structure IsAnchoredPath (tasks : Vector Task n) (dependencies : List Dependency)
    (projectStart : Option Day) (path : List (Fin n)) (i : Fin n) : Prop where
  isChain : path.IsChain (Joined tasks dependencies)
  getLast?_eq : path.getLast? = some i
  hasDuration : ∀ j ∈ path, (tasks.get j).duration.isSome
  hasAnchor : ∀ j ∈ path.head?, (tasks.get j).HasAnchor projectStart

theorem isAnchoredPath_singleton (hduration : (tasks.get i).duration.isSome)
    (hanchor : (tasks.get i).HasAnchor projectStart) :
    IsAnchoredPath tasks dependencies projectStart [i] i where
  isChain := .singleton i
  getLast?_eq := rfl
  hasDuration := List.forall_mem_singleton.mpr hduration
  hasAnchor j hj := by
    cases hj
    exact hanchor

/-- A path can be continued along a dependency. -/
theorem IsAnchoredPath.concat {path : List (Fin n)} {j : Fin n}
    (h : IsAnchoredPath tasks dependencies projectStart path j)
    (hjoined : Joined tasks dependencies j i) (hduration : (tasks.get i).duration.isSome) :
    IsAnchoredPath tasks dependencies projectStart (path ++ [i]) i where
  isChain := by
    refine List.isChain_append.mpr ⟨h.isChain, .singleton i, ?_⟩
    rw [h.getLast?_eq]
    rintro _ ⟨⟩ _ ⟨⟩
    exact hjoined
  getLast?_eq := List.getLast?_concat
  hasDuration := List.forall_mem_append.mpr
    ⟨h.hasDuration, List.forall_mem_singleton.mpr hduration⟩
  hasAnchor := by
    have hne : path ≠ [] := by
      rintro rfl
      cases h.getLast?_eq
    rw [List.head?_append_of_ne_nil _ hne]
    exact h.hasAnchor

/-- **There is a path to a task** with a duration if it has an anchor or if there is one to a
predecessor. -/
theorem exists_isAnchoredPath_iff :
    (∃ path, IsAnchoredPath tasks dependencies projectStart path i) ↔
      (tasks.get i).duration.isSome ∧ ((tasks.get i).HasAnchor projectStart ∨
        ∃ j, Joined tasks dependencies j i ∧
          ∃ path, IsAnchoredPath tasks dependencies projectStart path j) := by
  constructor
  · rintro ⟨path, h⟩
    obtain ⟨front, rfl⟩ := List.getLast?_eq_some_iff.mp h.getLast?_eq
    obtain ⟨hfront, hlast⟩ := List.forall_mem_append.mp h.hasDuration
    refine ⟨hlast i List.mem_cons_self, ?_⟩
    -- the task is the first one of the path, or the path leads to it from the one before
    cases hj : front.getLast? with
    | none =>
      obtain rfl := List.getLast?_eq_none_iff.mp hj
      exact Or.inl (h.hasAnchor i rfl)
    | some j =>
      obtain ⟨hchain, -, hjoined⟩ := List.isChain_append.mp h.isChain
      have hne : front ≠ [] := by
        rintro rfl
        cases hj
      have hanchor := h.hasAnchor
      rw [List.head?_append_of_ne_nil _ hne] at hanchor
      exact Or.inr ⟨j, hjoined j hj i rfl, front, hchain, hj, hfront, hanchor⟩
  · rintro ⟨hduration, hanchor | ⟨j, hjoined, path, h⟩⟩
    · exact ⟨[i], isAnchoredPath_singleton hduration hanchor⟩
    · exact ⟨path ++ [i], h.concat hjoined hduration⟩

variable (dependencies) in
/-- Paths start somewhere: there is a path to some task exactly if some task with a duration has
an anchor. -/
theorem exists_exists_isAnchoredPath_iff :
    (∃ i path, IsAnchoredPath tasks dependencies projectStart path i) ↔
      ∃ i, (tasks.get i).duration.isSome ∧ (tasks.get i).HasAnchor projectStart := by
  constructor
  · rintro ⟨i, path, h⟩
    cases path with
    | nil => cases h.getLast?_eq
    | cons j rest => exact ⟨j, h.hasDuration j List.mem_cons_self, h.hasAnchor j rfl⟩
  · rintro ⟨i, hduration, hanchor⟩
    exact ⟨i, [i], isAnchoredPath_singleton hduration hanchor⟩

/-! ## Timings -/

/-- **All dates and the slack are there, or none of them**, as a condition says. -/
structure Timing.HasDatesIff (t : Timing) (condition : Prop) : Prop where
  earliestStart : t.earliestStart.isSome ↔ condition
  earliestFinish : t.earliestFinish.isSome ↔ condition
  latestStart : t.latestStart.isSome ↔ condition
  latestFinish : t.latestFinish.isSome ↔ condition
  slack : t.slack.isSome ↔ condition

namespace Plan

variable {p : Plan n} {shifts : Shifts n}

/-- A timing has all dates if there are an early and a late span, and none if there is neither. -/
theorem hasDatesIff_timing {early late : Option Span} {condition : Prop} (t : Task)
    (hearly : early.isSome ↔ condition) (hlate : late.isSome = early.isSome) :
    (p.timing t early late).HasDatesIff condition := by
  cases early with
  | none =>
    cases late with
    | none => exact ⟨hearly, hearly, hearly, hearly, hearly⟩
    | some _ => cases hlate
  | some _ =>
    cases late with
    | none => cases hlate
    | some _ => exact ⟨hearly, hearly, hearly, hearly, hearly⟩

/-! ## Early dates -/

/-- **What a task gets dates from**: an anchor, or a predecessor that has dates. -/
theorem isSome_early_iff (h : p.network.IsOrdered) :
    ((p.early shifts).get i).isSome ↔ (p.task i).duration.isSome ∧
      ((p.task i).HasAnchor p.projectStart ∨ ∃ link ∈ p.network.links, link.successor = i ∧
        ((p.early shifts).get link.predecessor).isSome) := by
  have hbounds : p.startBounds i (p.early shifts) ≠ [] ↔ ∃ link ∈ p.network.links,
      link.successor = i ∧ ((p.early shifts).get link.predecessor).isSome := by
    simp only [ne_eq, startBounds_eq_nil_iff, not_forall, exists_prop, Bool.not_eq_false]
  rw [early_eq h, earlySpan?]
  cases hduration : (p.task i).duration with
  | none => simp
  | some days =>
    simp only [Option.isNone_some, Bool.false_eq_true, if_false, isSome_recordedSpan?,
      Bool.or_eq_true, isSome_plannedStart?, hbounds, Option.orElse_eq_orElse,
      Option.orElse_eq_or, Option.isSome_or, Option.isSome_some, Task.HasAnchor, true_and,
      or_assoc, or_comm, or_left_comm]

/-- **Which tasks get dates does not depend on the calendar**, and of the start of the project only
on whether there is one. -/
theorem isSome_early_iff_of_network_eq {p' : Plan n} (h : p.network.IsOrdered)
    (hnet : p'.network = p.network) (hstart : p'.projectStart.isSome = p.projectStart.isSome)
    (shifts shifts' : Shifts n) (i : Fin n) :
    ((p'.early shifts').get i).isSome ↔ ((p.early shifts).get i).isSome := by
  induction i using h.induction_along with
  | step i ih =>
    rw [isSome_early_iff h, isSome_early_iff (hnet ▸ h), task, hnet, Task.HasAnchor, hstart]
    refine and_congr_right fun _ => or_congr_right ?_
    exact exists_congr fun link => and_congr_right fun hlink => and_congr_right (ih link hlink)

section Paths

variable (hnet : Network.ofProject p.network.tasks dependencies = .ok p.network)

include hnet

/-- **The tasks with dates are those at the end of a path**, under any shifts. Along the order, both
sides take the same step from the predecessors of a task to the task itself. -/
theorem isSome_early_iff_exists_path (shifts : Shifts n) (i : Fin n) :
    ((p.early shifts).get i).isSome ↔
      ∃ path, IsAnchoredPath p.network.tasks dependencies p.projectStart path i := by
  have h := Network.isOrdered_of_ofProject hnet
  induction i using h.induction_along with
  | step i ih =>
    rw [isSome_early_iff h, exists_isAnchoredPath_iff, ← Network.exists_link_iff_joined hnet]
    refine and_congr_right fun _ => or_congr_right ?_
    exact exists_congr fun link => and_congr_right fun hlink => and_congr_right (ih link hlink)

theorem lastFinish?_early_eq_none_iff : lastFinish? (p.early shifts) = none ↔
    ∀ i, ¬ ((p.task i).duration.isSome ∧ (p.task i).HasAnchor p.projectStart) := by
  rw [lastFinish?_eq_none_iff, ← not_exists]
  refine Iff.trans ?_ (not_congr (exists_exists_isAnchoredPath_iff dependencies))
  simp only [← isSome_early_iff_exists_path hnet shifts, not_exists, Bool.not_eq_true,
    Option.isSome_eq_false_iff, Option.isNone_iff_eq_none]

end Paths

/-! ## Schedules -/

/-- **The task with the least id.** -/
theorem leastId_spec (hn : n ≠ 0) :
    (∃ i, p.leastId = (p.task i).id) ∧ ∀ i, p.leastId ≤ (p.task i).id := by
  have hmem : ∀ id, id ∈ ranked (· < ·) (p.network.tasks.toList.map (·.id)) ↔
      ∃ i, (p.task i).id = id := by
    intro id
    simp only [mem_ranked, List.mem_map, Vector.mem_toList_iff, Vector.mem_iff_getElem]
    constructor
    · rintro ⟨_, ⟨k, hk, rfl⟩, rfl⟩
      exact ⟨⟨k, hk⟩, rfl⟩
    · rintro ⟨i, rfl⟩
      exact ⟨_, ⟨i, i.isLt, rfl⟩, rfl⟩
  -- no id stands in front of a lesser one
  have horder := inOrder_ranked isRanking_lt (p.network.tasks.toList.map (·.id))
  unfold leastId
  cases hids : ranked (· < ·) (p.network.tasks.toList.map (·.id)) with
  | nil =>
    have hfirst := (hmem _).mpr ⟨⟨0, Nat.pos_of_ne_zero hn⟩, rfl⟩
    rw [hids] at hfirst
    cases hfirst
  | cons least rest =>
    rw [hids] at hmem horder
    refine ⟨?_, fun i => ?_⟩
    · obtain ⟨i, hi⟩ := (hmem least).mp List.mem_cons_self
      exact ⟨i, hi.symm⟩
    · rcases List.mem_cons.mp ((hmem _).mpr ⟨i, rfl⟩) with heq | hrest
      · exact heq ▸ String.le_refl _
      · have hnot := (List.pairwise_cons.mp horder).1 _ hrest
        rwa [decide_eq_true_eq, String.not_lt] at hnot

/-- **Which tasks of a project get dates**: those at the end of a path of dependencies, through
tasks with a duration, from one with an anchor. They get all of their dates and a slack, and the
others none, whatever the shifts. The plan is refused exactly if no task with a duration has an
anchor, and then the task with the least id is named. -/
theorem dates_iff_anchored {c : Calendar} {settings : Settings}
    (hp : ofProject c tasks dependencies settings = .ok p) (hn : n ≠ 0) (shifts : Shifts n) :
    (∀ e, p.schedule shifts = .error e ↔
      (∀ i, ¬ ((tasks.get i).duration.isSome ∧
        (tasks.get i).HasAnchor settings.projectStart)) ∧
      ∃ i, e = .unschedulable (tasks.get i).id ∧ ∀ j, (tasks.get i).id ≤ (tasks.get j).id) ∧
    ∀ s, p.schedule shifts = .ok s → ∀ i, ∃ t, s.get? (tasks.get i).id = some t ∧
      t.HasDatesIff (∃ path, IsAnchoredPath tasks dependencies settings.projectStart path i) := by
  obtain ⟨rfl, hnet, hproject⟩ := ofProject_eq_ok hp
  obtain rfl := Network.tasks_eq hnet
  rw [← hproject]
  refine ⟨fun e => ?_, fun s hs i => ?_⟩
  · obtain ⟨⟨least, hleast⟩, hle⟩ := leastId_spec (p := p) hn
    rw [schedule_eq_error_iff, and_iff_right hn, lastFinish?_early_eq_none_iff hnet]
    refine and_congr_right fun _ => ⟨?_, ?_⟩
    · rintro rfl
      exact ⟨least, congrArg _ hleast, fun j => hleast ▸ hle j⟩
    · rintro ⟨i, rfl, hi⟩
      refine congrArg _ (String.le_antisymm (hle i) ?_)
      rw [hleast]
      exact hi least
  · obtain ⟨finish, -, hget⟩ := get?_schedule hnet hs i
    exact ⟨_, hget, hasDatesIff_timing _ (isSome_early_iff_exists_path hnet shifts i)
      (isSome_late (Network.isOrdered_of_ofProject hnet) _ finish i)⟩

end Plan

/-! Without a start of the project, only the draft can be planned from a day of its own. The
release is planned behind it, and the review not at all. -/

namespace Sample

def anchored : Vector Task 3 :=
  #v[{ id := "draft", duration := some 3, anchor := some monday },
    { id := "review", duration := some 1 }, { id := "release", duration := some 0 }]

def anchoredPlan : Plan 3 := ⟨.standard, networkOf anchored, none⟩

set_option maxRecDepth 4000 in
theorem ofProject_anchored_eq :
    Plan.ofProject .standard anchored Sample.dependencies {} = .ok anchoredPlan := by rfl

theorem dates_iff_anchored_sample :
    IsAnchoredPath anchored Sample.dependencies none [0, 2] 2 ∧
    ∃ s, anchoredPlan.schedule #v[0, 4, -3] = .ok s ∧
      ∀ i, ∃ t, s.get? (anchored.get i).id = some t ∧
        t.HasDatesIff (∃ path, IsAnchoredPath anchored Sample.dependencies none path i) := by
  have hdraft : IsAnchoredPath anchored Sample.dependencies none [0] 0 :=
    isAnchoredPath_singleton (by decide) (by decide)
  refine ⟨hdraft.concat (by decide) (by decide), ?_⟩
  obtain ⟨s, hs⟩ : ∃ s, anchoredPlan.schedule #v[0, 4, -3] = .ok s := ⟨_, by rfl⟩
  exact ⟨s, hs, (Plan.dates_iff_anchored ofProject_anchored_eq (by decide) _).2 s hs⟩

end Sample

end Workplan
