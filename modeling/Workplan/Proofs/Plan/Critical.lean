import Mathlib.Data.List.Chain
import Workplan.Proofs.Plan.Latest

/-!
# Critical paths

A critical task starts on the same day early and late. What holds its late start holds the
early start of a successor, and what holds its early start holds the late start of a
predecessor, since the two bounds of a relation are inverse to each other. So critical tasks
are joined by tight dependencies, back to a task that waits for nothing and on to one that
ends the project.

## Main definitions

* `Plan.IsCritical`, `Plan.IsTight`: critical tasks and tight links of a plan
* `Dependency.IsTight`: tight dependencies of a schedule
* `IsCriticalPath`: a path of tight dependencies from a first task to the end of the project

## Main results

* `IsCritical.exists_successor`, `IsCritical.exists_predecessor`: one step along the path
* `critical_path_complete`: every critical task is on a critical path
-/

namespace Workplan

variable {n : Nat}

namespace Plan

variable {p : Plan n} {dependencies : List Dependency} {s : Schedule} {finish : Day} {i : Fin n}

section Definitions

variable (p : Plan n)

/-- A task that starts on the same day early and late. -/
def IsCritical (finish : Day) (i : Fin n) : Prop :=
  p.IsPlanned i ∧ p.earlyStart (Shifts.none n) i = p.lateStart (Shifts.none n) finish i

/-- A link whose earliest start is that of its successor. -/
def IsTight (link : Link n) : Prop :=
  p.IsPlanned link.predecessor ∧ p.IsPlanned link.successor ∧
    link.relation.earliestStart p.calendar
      (p.spanAt (p.earlyStart (Shifts.none n)) link.predecessor) (p.task link.successor).days =
      p.earlyStart (Shifts.none n) link.successor

/-- A tight link between the tasks at two positions. -/
def TightlyJoined (i j : Fin n) : Prop :=
  ∃ link ∈ p.network.links, link.predecessor = i ∧ link.successor = j ∧ p.IsTight link

end Definitions

section Regular

variable (hr : p.IsRegular dependencies (Shifts.none n) finish)

include hr

/-- The two bounds of a link are inverse to each other on early and late spans. -/
theorem IsRegular.earliest_eq_iff {link : Link n} (hlink : link ∈ p.network.links)
    (hp : p.IsPlanned link.predecessor) (hs : p.IsPlanned link.successor) :
    link.relation.earliestStart p.calendar
        (p.spanAt (p.earlyStart (Shifts.none n)) link.predecessor) (p.task link.successor).days =
        p.lateStart (Shifts.none n) finish link.successor ↔
      link.relation.latestStart p.calendar
        (p.spanAt (p.lateStart (Shifts.none n) finish) link.successor)
        (p.task link.predecessor).days = p.earlyStart (Shifts.none n) link.predecessor :=
  Relation.earliestStart_eq_iff (hr.isSpan_early hp) (hr.isSpan_late hs)
    (hr.inner_earliest hlink hp hs) (hr.inner_latest hlink hp hs)

/-! ## One step along a critical path -/

/-- **A critical task ends the project or passes its day on to a critical successor.** The late
start of the task is the limit that some successor sets by its own late start. Turned around, this
late start is the bound that the task sets early, and the successor keeps it. So it cannot start
before its late start. -/
theorem IsCritical.exists_successor (hi : p.IsCritical finish i) :
    (p.spanAt (p.earlyStart (Shifts.none n)) i).finish = finish ∨
      ∃ link ∈ p.network.links, link.predecessor = i ∧ p.IsTight link ∧
        p.IsCritical finish link.successor := by
  rcases hr.lateStart_cases hi.1 with hlast | ⟨link, hlink, rfl, hs, hlatest⟩
  · left
    rw [← hi.2] at hlast
    exact ((hr.isSpan_early hi.1).finish_eq_iff hr.isNumbered_finish (hr.inner_last hi.1)).mpr hlast
  · right
    rw [← hi.2] at hlatest
    have hearliest := (hr.earliest_eq_iff hlink hi.1 hs).mpr hlatest
    have hle := hr.earliest_le hlink hi.1 hs
    rw [hearliest] at hle
    have hsame := le_antisymm (hr.earlyStart_le_lateStart hs) hle
    exact ⟨link, hlink, rfl, ⟨hi.1, hs, hearliest.trans hsame.symm⟩, hs, hsame⟩

/-- **A critical task waits for nothing or takes its day from a critical predecessor**, which keeps
the limit of the task late and so cannot start behind its own early start. -/
theorem IsCritical.exists_predecessor (hi : p.IsCritical finish i) :
    p.startBounds i (p.early (Shifts.none n)) = [] ∨
      ∃ link ∈ p.network.links, link.successor = i ∧ p.IsTight link ∧
        p.IsCritical finish link.predecessor := by
  rcases hr.earlyStart_cases hi.1 with ⟨link, hlink, rfl, hp, bound, hearliest, hstart⟩ | hnil
  · right
    rw [get_none, shifted_zero, max_self] at hstart
    subst hstart
    have hlatest := (hr.earliest_eq_iff hlink hp hi.1).mp (hearliest.trans hi.2)
    have hle := hr.le_latest hlink hp hi.1
    rw [hlatest] at hle
    exact ⟨link, hlink, rfl, ⟨hp, hi.1, hearliest⟩, hp,
      le_antisymm (hr.earlyStart_le_lateStart hp) hle⟩
  · exact Or.inl hnil

/-! ## Paths -/

/-- From a critical task on, critical tasks lead to one that ends the project: the task itself, or
the last one on the way from a critical successor. -/
theorem IsCritical.exists_chain_on (hi : p.IsCritical finish i) :
    ∃ rest, (i :: rest).IsChain p.TightlyJoined ∧ (∀ j ∈ rest, p.IsCritical finish j) ∧
      ∀ j ∈ (i :: rest).getLast?,
        (p.spanAt (p.earlyStart (Shifts.none n)) j).finish = finish := by
  induction i using hr.isOrdered.induction_against with
  | step i ih =>
    rcases hi.exists_successor hr with hlast | ⟨link, hlink, rfl, htight, hcritical⟩
    · refine ⟨[], .singleton i, nofun, ?_⟩
      intro j hj
      obtain rfl : i = j := by simpa using hj
      exact hlast
    · obtain ⟨rest, hchain, hrest, hlast⟩ := ih link hlink rfl hcritical
      refine ⟨link.successor :: rest, .cons_cons ⟨link, hlink, rfl, rfl, htight⟩ hchain, ?_, ?_⟩
      · exact List.forall_mem_cons.mpr ⟨hcritical, hrest⟩
      · rwa [List.getLast?_cons_cons]

/-- Critical tasks lead to a critical task from one that waits for nothing: the task itself, or the
first one on the way to a critical predecessor. -/
theorem IsCritical.exists_chain_back (hi : p.IsCritical finish i) :
    ∃ front, (front ++ [i]).IsChain p.TightlyJoined ∧ (∀ j ∈ front, p.IsCritical finish j) ∧
      ∀ j ∈ (front ++ [i]).head?, p.startBounds j (p.early (Shifts.none n)) = [] := by
  induction i using hr.isOrdered.induction_along with
  | step i ih =>
    rcases hi.exists_predecessor hr with hroot | ⟨link, hlink, rfl, htight, hcritical⟩
    · refine ⟨[], .singleton i, nofun, ?_⟩
      intro j hj
      obtain rfl : i = j := by simpa using hj
      exact hroot
    · obtain ⟨front, hchain, hfront, hhead⟩ := ih link hlink rfl hcritical
      refine ⟨front ++ [link.predecessor], ?_, ?_, ?_⟩
      · rw [List.append_assoc, List.singleton_append, List.isChain_split]
        exact ⟨hchain, .cons_cons ⟨link, hlink, rfl, rfl, htight⟩ (.singleton _)⟩
      · exact List.forall_mem_append.mpr ⟨hfront, List.forall_mem_singleton.mpr hcritical⟩
      · rwa [List.head?_append_of_ne_nil _ (by simp)]

/-- **A critical task lies on a path of critical tasks** from one that waits for nothing to one
that ends the project. -/
theorem IsCritical.exists_path (hi : p.IsCritical finish i) :
    ∃ path : List (Fin n), i ∈ path ∧ path.IsChain p.TightlyJoined ∧
      (∀ j ∈ path, p.IsCritical finish j) ∧
      (∀ j ∈ path.head?, p.startBounds j (p.early (Shifts.none n)) = []) ∧
      ∀ j ∈ path.getLast?, (p.spanAt (p.earlyStart (Shifts.none n)) j).finish = finish := by
  obtain ⟨front, hfront, hcriticalFront, hroot⟩ := hi.exists_chain_back hr
  obtain ⟨rest, hrest, hcriticalRest, hlast⟩ := hi.exists_chain_on hr
  refine ⟨front ++ i :: rest, by simp, List.isChain_split.mpr ⟨hfront, hrest⟩, ?_, ?_, ?_⟩
  · exact List.forall_mem_append.mpr ⟨hcriticalFront, List.forall_mem_cons.mpr ⟨hi, hcriticalRest⟩⟩
  · intro j hj
    apply hroot j
    cases front <;> exact hj
  · intro j hj
    rw [List.getLast?_append_of_ne_nil _ (List.cons_ne_nil i rest)] at hj
    exact hlast j hj

/-! ## Critical tasks of a schedule -/

/-- The schedule of a plan tells which of its tasks are critical. -/
theorem isCritical_schedule_iff (hs : p.baseline = .ok s) (i : Fin n) :
    s.isCritical (p.task i).id ↔ p.IsCritical finish i := by
  have hiff : p.IsPlanned i → (s.isCritical (p.task i).id ↔
      p.lateStart (Shifts.none n) finish i ≤ p.earlyStart (Shifts.none n) i) := by
    intro hi
    rw [isCritical_iff hr.network_eq hs (hr.early?_schedule hs hi) (hr.late?_schedule hs hi),
      spanAt_start, spanAt_start, Calendar.countIn_of_isWorking (hr.isWorking_late hi)
      (hr.lateStart_lt hi), Calendar.le_iff_rank_le (hr.isWorking_early hi)]
    omega
  constructor
  · intro hcritical
    obtain ⟨own, hown⟩ := exists_early?_of_isCritical hr.network_eq hs hcritical
    obtain ⟨hi, -⟩ := hr.eq_of_early?_schedule hs hown
    exact ⟨hi, le_antisymm (hr.earlyStart_le_lateStart hi) ((hiff hi).mp hcritical)⟩
  · intro hi
    exact (hiff hi.1).mpr hi.2.ge

end Regular

end Plan

/-! ## Critical paths of a schedule -/

/-- A dependency between two tasks with dates that is tight: the earliest start that it leaves
its successor is that of the successor. -/
def Dependency.IsTight (d : Dependency) (c : Calendar) (tasks : Vector Task n) (s : Schedule)
    (i j : Fin n) : Prop :=
  d.Joins tasks i j ∧ ∃ a b, s.early? (tasks.get i).id = some a ∧
    s.early? (tasks.get j).id = some b ∧
    d.relation.earliestStart c a (tasks.get j).days = b.start

/-- None of the predecessors of a task have dates. -/
def Schedule.IsFirst (s : Schedule) (tasks : Vector Task n) (dependencies : List Dependency)
    (i : Fin n) : Prop :=
  ∀ d ∈ dependencies, ∀ j, d.Joins tasks j i → ¬ s.isScheduled (tasks.get j).id

instance (s : Schedule) (tasks : Vector Task n) (dependencies : List Dependency) (i : Fin n) :
    Decidable (s.IsFirst tasks dependencies i) :=
  inferInstanceAs (Decidable (∀ d ∈ dependencies, ∀ j, d.Joins tasks j i → ¬ _))

/-- Critical tasks that are joined by tight dependencies, from one without scheduled
predecessors to one that ends the project. -/
structure IsCriticalPath (c : Calendar) (tasks : Vector Task n) (dependencies : List Dependency)
    (s : Schedule) (path : List (Fin n)) : Prop where
  isChain : path.IsChain fun i j => ∃ d ∈ dependencies, d.IsTight c tasks s i j
  isCritical : ∀ i ∈ path, s.isCritical (tasks.get i).id
  isFirst : ∀ i ∈ path.head?, s.IsFirst tasks dependencies i
  endsProject : ∀ i ∈ path.getLast?, s.EndsProject (tasks.get i).id

namespace Plan

variable {p : Plan n} {dependencies : List Dependency} {s : Schedule} {i j : Fin n}

/-- **A task has no bounds exactly if it has no scheduled predecessor.** -/
theorem isFirst_iff_startBounds_eq_nil
    (hnet : Network.ofProject p.network.tasks dependencies = .ok p.network)
    {shifts : Shifts n} (hs : p.schedule shifts = .ok s) :
    s.IsFirst p.network.tasks dependencies i ↔ p.startBounds i (p.early shifts) = [] := by
  have hscheduled : ∀ j, s.isScheduled (p.task j).id ↔ ((p.early shifts).get j).isSome := by
    intro j
    rw [s.isScheduled_iff, early?_schedule hnet hs, Option.isSome_iff_exists]
  rw [startBounds_eq_nil_iff]
  constructor
  · rintro hfirst link hlink rfl
    obtain ⟨d, hd, hjoins, -⟩ := (Network.mem_links_iff hnet).mp hlink
    exact Bool.not_eq_true _ |>.mp fun hsome =>
      hfirst d hd _ hjoins ((hscheduled _).mpr hsome)
  · intro hlinks d hd j hjoins hj
    have hnone := hlinks ⟨j, i, d.relation⟩
      ((Network.mem_links_iff hnet).mpr ⟨d, hd, hjoins, rfl⟩) rfl
    rw [(hscheduled j).mp hj] at hnone
    cases hnone

section Schedule

variable {finish : Day} (hr : p.IsRegular dependencies (Shifts.none n) finish)
  (hs : p.baseline = .ok s)

include hr hs

theorem exists_isTight (h : p.TightlyJoined i j) :
    ∃ d ∈ dependencies, d.IsTight p.calendar p.network.tasks s i j := by
  obtain ⟨link, hlink, rfl, rfl, hp, hsucc, hstart⟩ := h
  obtain ⟨d, hd, hjoins, hrelation⟩ := (Network.mem_links_iff hr.network_eq).mp hlink
  rw [← hrelation] at hstart
  exact ⟨d, hd, hjoins, _, _, hr.early?_schedule hs hp, hr.early?_schedule hs hsucc, hstart⟩

theorem isFirst_of_startBounds (h : p.startBounds i (p.early (Shifts.none n)) = []) :
    s.IsFirst p.network.tasks dependencies i :=
  (isFirst_iff_startBounds_eq_nil hr.network_eq hs).mpr h

theorem endsProject_of_finish (hi : p.IsCritical finish i)
    (h : (p.spanAt (p.earlyStart (Shifts.none n)) i).finish = finish) :
    s.EndsProject (p.task i).id :=
  ⟨_, hr.early?_schedule hs hi.1, h ▸ hr.finish?_schedule hs⟩

end Schedule

/-- **Every critical task is on a critical path.** It ends the project or a tight dependency
leads on from it to a critical task, it has no scheduled predecessor or a tight dependency
leads to it from a critical task, and so on to both sides. -/
theorem critical_path_complete {c : Calendar} {tasks : Vector Task n} {settings : Settings}
    (hp : ofProject c tasks dependencies settings = .ok p) (hs : p.baseline = .ok s)
    (hrec : ∀ i, (tasks.get i).IsUnrecorded) (hin : p.StaysInside (Shifts.none n))
    (hi : s.isCritical (tasks.get i).id) :
    (s.EndsProject (tasks.get i).id ∨
      ∃ d ∈ dependencies, ∃ j, d.IsTight c tasks s i j ∧ s.isCritical (tasks.get j).id) ∧
    (s.IsFirst tasks dependencies i ∨
      ∃ d ∈ dependencies, ∃ j, d.IsTight c tasks s j i ∧ s.isCritical (tasks.get j).id) ∧
    ∃ path, i ∈ path ∧ IsCriticalPath c tasks dependencies s path := by
  obtain ⟨rfl, hnet, -⟩ := ofProject_eq_ok hp
  obtain rfl := Network.tasks_eq hnet
  obtain ⟨finish, hr⟩ := exists_isRegular hnet hrec hin hs
    ((s.isScheduled_iff _).mpr (exists_early?_of_isCritical hnet hs hi))
  have hiff := isCritical_schedule_iff hr hs
  have hcritical := (hiff i).mp hi
  refine ⟨?_, ?_, ?_⟩
  · rcases hcritical.exists_successor hr with hlast | ⟨link, hlink, rfl, htight, hsuccessor⟩
    · exact Or.inl (endsProject_of_finish hr hs hcritical hlast)
    · obtain ⟨d, hd, htight⟩ := exists_isTight hr hs ⟨link, hlink, rfl, rfl, htight⟩
      exact Or.inr ⟨d, hd, _, htight, (hiff _).mpr hsuccessor⟩
  · rcases hcritical.exists_predecessor hr with hroot | ⟨link, hlink, rfl, htight, hpredecessor⟩
    · exact Or.inl (isFirst_of_startBounds hr hs hroot)
    · obtain ⟨d, hd, htight⟩ := exists_isTight hr hs ⟨link, hlink, rfl, rfl, htight⟩
      exact Or.inr ⟨d, hd, _, htight, (hiff _).mpr hpredecessor⟩
  · obtain ⟨path, hmem, hchain, hall, hroot, hlast⟩ := hcritical.exists_path hr
    refine ⟨path, hmem, hchain.imp fun _ _ => exists_isTight hr hs, ?_, ?_, ?_⟩
    · intro j hj
      exact (hiff j).mpr (hall j hj)
    · intro j hj
      exact isFirst_of_startBounds hr hs (hroot j hj)
    · intro j hj
      exact endsProject_of_finish hr hs (hall j (List.mem_of_getLast? hj)) (hlast j hj)

end Plan

namespace Sample

/-- The release is critical. -/
theorem critical_path_complete_sample :
    (schedule.EndsProject (tasks.get 2).id ∨ ∃ d ∈ dependencies, ∃ j,
      d.IsTight .standard tasks schedule 2 j ∧ schedule.isCritical (tasks.get j).id) ∧
    (schedule.IsFirst tasks dependencies 2 ∨ ∃ d ∈ dependencies, ∃ j,
      d.IsTight .standard tasks schedule j 2 ∧ schedule.isCritical (tasks.get j).id) ∧
    ∃ path, 2 ∈ path ∧ IsCriticalPath .standard tasks dependencies schedule path :=
  Plan.critical_path_complete ofProject_eq baseline_eq isUnrecorded staysInside (by decide)

end Sample

end Workplan
