import Workplan.Proofs.Plan.Equation

/-!
# Plans inside the range of days

The computation of a plan walks over the calendar, and a walk that meets an end of the range
stops there. The days at which the walks of a plan end are listed here. As long as none of
them is an end of the range, all spans are made of working days and have their full length.

## Main definitions

* `Plan.earlyWalks`, `Plan.lateWalks`: the ends of the walks to the spans of a task
* `Plan.walks`, `Plan.StaysInside`: the ends of all walks, and that they are inside the range

## Main results

* `isSpan_early`, `isSpan_late`: inside the range the spans have the days of their tasks
* `isSpan_late_kept`: and past recorded days late spans have the days that their tasks keep

`Sample` is a small project that stays inside the range.
-/

namespace Workplan.Plan

variable {n : Nat}

section Walks

variable (p : Plan n)

/-- The end of the walk of a shift; a shift by no days walks nowhere. -/
def shiftWalk (start : Day) (shift : Int) : List Day :=
  if shift = 0 then [] else [p.calendar.offset start shift]

/-- The ends of the walks to the planned start of a task, from the latest of its bounds or
from its anchor. -/
def plannedWalks (shifts : Shifts n) (i : Fin n) (early : Vector (Option Span) n) : List Day :=
  match (p.startBounds i early).max? with
  | some bound => p.shiftWalk bound (shifts.get i)
  | none =>
    match (p.task i).anchor <|> p.projectStart with
    | some anchor =>
      p.calendar.onOrAfter anchor :: p.shiftWalk (p.calendar.onOrAfter anchor) (shifts.get i)
    | none => []

/-- The ends of the walks from one end of a span to the other, past recorded days. -/
def recordedWalks (t : Task) (own : Span) : List Day :=
  match t.ended with
  | some finish => if t.began.isNone then p.calendar.startWalk finish t.days else []
  | none => p.calendar.finishWalk own.start t.days

/-- The ends of the walks to the early span of a task. -/
def earlyWalks (shifts : Shifts n) (i : Fin n) : List Day :=
  let early := p.early shifts
  if (p.task i).duration.isNone then []
  else
    ((p.network.incoming i).flatMap fun link =>
      ((early.get link.predecessor).map fun span =>
        link.relation.earliestWalks p.calendar span (p.task i).days).getD []) ++
    p.plannedWalks shifts i early ++
    ((early.get i).map (p.recordedWalks (p.task i))).getD []

/-- The ends of the walks to the late span of a task with an early one. -/
def lateWalks (late : Vector (Option Span) n) (finish : Day) (i : Fin n) (own : Span) :
    List Day :=
  let days := p.keptDays (p.task i) own
  p.calendar.startWalk (p.calendar.onOrBefore finish) days ++
  ((p.network.outgoing i).flatMap fun link =>
    ((late.get link.successor).map fun span =>
      link.relation.latestWalks p.calendar span days).getD []) ++
  ((late.get i).map fun span => p.calendar.finishWalk span.start days).getD []

/-- The ends of all walks that a plan makes under some shifts. -/
def walks (shifts : Shifts n) : List Day :=
  let early := p.early shifts
  ((List.finRange n).flatMap (p.earlyWalks shifts)) ++
  match lastFinish? early with
  | none => []
  | some finish =>
    p.calendar.onOrBefore finish ::
      (List.finRange n).flatMap fun i =>
        ((early.get i).map (p.lateWalks (p.late early finish) finish i)).getD []

/-- No walk that a plan makes under some shifts stops at an end of the range. -/
def StaysInside (shifts : Shifts n) : Prop := ∀ d ∈ p.walks shifts, d.IsInner

instance (shifts : Shifts n) : Decidable (p.StaysInside shifts) :=
  inferInstanceAs (Decidable (∀ d ∈ p.walks shifts, d.IsInner))

end Walks

variable {p : Plan n} {shifts : Shifts n} {i : Fin n} {own span : Span} {finish : Day}

/-! ## Where the walks end -/

theorem StaysInside.inner_early (hin : p.StaysInside shifts) (i : Fin n) :
    ∀ d ∈ p.earlyWalks shifts i, d.IsInner := by
  intro d hd
  exact hin d (List.mem_append_left _ (List.mem_flatMap.mpr ⟨i, List.mem_finRange i, hd⟩))

theorem StaysInside.inner_finish (hin : p.StaysInside shifts)
    (hfinish : lastFinish? (p.early shifts) = some finish) :
    (p.calendar.onOrBefore finish).IsInner := by
  refine hin _ (List.mem_append_right _ ?_)
  rw [hfinish]
  exact List.mem_cons_self

theorem StaysInside.inner_late (hin : p.StaysInside shifts)
    (hfinish : lastFinish? (p.early shifts) = some finish)
    (hown : (p.early shifts).get i = some own) :
    ∀ d ∈ p.lateWalks (p.late (p.early shifts) finish) finish i own, d.IsInner := by
  intro d hd
  refine hin d (List.mem_append_right _ ?_)
  rw [hfinish]
  refine List.mem_cons_of_mem _ (List.mem_flatMap.mpr ⟨i, List.mem_finRange i, ?_⟩)
  rwa [hown]

/-- A planned task has a duration. -/
theorem duration_isSome (h : p.network.IsOrdered) (hown : (p.early shifts).get i = some own) :
    (p.task i).duration.isNone = false := by
  rw [early_eq h, earlySpan?] at hown
  split at hown
  · cases hown
  · next hduration => exact Bool.not_eq_true _ |>.mp hduration

theorem earlyWalks_eq (h : p.network.IsOrdered) (hown : (p.early shifts).get i = some own) :
    p.earlyWalks shifts i =
      ((p.network.incoming i).flatMap fun link =>
        (((p.early shifts).get link.predecessor).map fun span =>
          link.relation.earliestWalks p.calendar span (p.task i).days).getD []) ++
      p.plannedWalks shifts i (p.early shifts) ++ p.recordedWalks (p.task i) own := by
  rw [earlyWalks, duration_isSome h hown, hown]
  rfl

section Inside

variable (h : p.network.IsOrdered) (hin : p.StaysInside shifts)

include h hin

theorem inner_earliestWalks (hown : (p.early shifts).get i = some own) {link : Link n}
    (hlink : link ∈ p.network.links) (hs : link.successor = i) {a : Span}
    (ha : (p.early shifts).get link.predecessor = some a) :
    ∀ d ∈ link.relation.earliestWalks p.calendar a (p.task i).days, d.IsInner := by
  intro d hd
  refine hin.inner_early i d ?_
  rw [earlyWalks_eq h hown]
  refine List.mem_append_left _ (List.mem_append_left _ (List.mem_flatMap.mpr ⟨link, ?_, ?_⟩))
  · exact mem_linksInto.mpr ⟨hlink, hs⟩
  · rwa [ha]

theorem inner_plannedWalks (hown : (p.early shifts).get i = some own) :
    ∀ d ∈ p.plannedWalks shifts i (p.early shifts), d.IsInner := by
  intro d hd
  refine hin.inner_early i d ?_
  rw [earlyWalks_eq h hown]
  exact List.mem_append_left _ (List.mem_append_right _ hd)

theorem inner_recordedWalks (hown : (p.early shifts).get i = some own) :
    ∀ d ∈ p.recordedWalks (p.task i) own, d.IsInner := by
  intro d hd
  refine hin.inner_early i d ?_
  rw [earlyWalks_eq h hown]
  exact List.mem_append_right _ hd

/-! ## Early spans -/

/-- A bound is a working day inside the range. -/
theorem exists_isNumbered_of_mem_startBounds (hown : (p.early shifts).get i = some own) {x : Day}
    (hx : x ∈ p.startBounds i (p.early shifts)) : ∃ k, p.calendar.IsNumbered x k := by
  obtain ⟨link, hlink, hs, a, ha, rfl⟩ := mem_startBounds.mp hx
  exact ⟨_, Relation.isNumbered_earliestStart (inner_earliestWalks h hin hown hlink hs ha)⟩

omit h hin in
theorem exists_isNumbered_shifted {start : Day} {shift : Int}
    (hstart : ∃ k, p.calendar.IsNumbered start k)
    (hwalk : ∀ d ∈ p.shiftWalk start shift, d.IsInner) :
    ∃ k, p.calendar.IsNumbered (p.shifted start shift) k := by
  unfold shiftWalk at hwalk
  unfold shifted
  split
  · exact hstart
  · next hne =>
    rw [if_neg hne] at hwalk
    exact ⟨_, Calendar.isNumbered_offset (hwalk _ (List.mem_singleton.mpr rfl))⟩

/-- An early start is a working day inside the range. -/
theorem exists_isNumbered_early (hrec : (p.task i).IsUnrecorded)
    (hown : (p.early shifts).get i = some own) : ∃ k, p.calendar.IsNumbered own.start k := by
  have hwalks := inner_plannedWalks h hin hown
  unfold plannedWalks at hwalks
  rcases (early_cases h hrec hown).2 with
    ⟨bound, hmem, hle, hstart⟩ | ⟨hnil, anchor, hanchor, hstart⟩
  · rw [List.max?_eq_some_iff.mpr ⟨hmem, hle⟩] at hwalks
    have hbound := exists_isNumbered_of_mem_startBounds h hin hown hmem
    rw [hstart]
    rcases max_choice (p.shifted bound (shifts.get i)) bound with hmax | hmax <;> rw [hmax]
    · exact exists_isNumbered_shifted hbound hwalks
    · exact hbound
  · rw [hnil, List.max?_nil] at hwalks
    simp only [hanchor, List.forall_mem_cons] at hwalks
    rw [hstart]
    exact exists_isNumbered_shifted ⟨_, Calendar.isNumbered_onOrAfter hwalks.1⟩ hwalks.2

/-- **Inside the range, an early span has the working days of its task.** -/
theorem isSpan_early (hrec : (p.task i).IsUnrecorded) (hown : (p.early shifts).get i = some own) :
    p.calendar.IsSpan (p.task i).days own := by
  obtain ⟨k, hk⟩ := exists_isNumbered_early h hin hrec hown
  have hwalks := inner_recordedWalks h hin hown
  rw [recordedWalks, hrec.2] at hwalks
  rw [(early_cases h hrec hown).1]
  exact hk.isSpan hwalks

/-! ## Late spans -/

theorem keptDays_eq (hrec : (p.task i).IsUnrecorded) (hown : (p.early shifts).get i = some own) :
    p.keptDays (p.task i) own = (p.task i).days := by
  unfold keptDays
  split
  · next hzero => exact hzero.symm
  · next hne => exact (isSpan_early h hin hrec hown).countIn_eq hne

omit h in
/-- The last working day of the project is inside the range. -/
theorem isNumbered_onOrBefore (hfinish : lastFinish? (p.early shifts) = some finish) :
    p.calendar.IsNumbered (p.calendar.onOrBefore finish)
      (p.calendar.rank (p.calendar.onOrBefore finish)) := by
  have hinner := hin.inner_finish hfinish
  rcases Calendar.onOrBefore_cases finish with ⟨-, hfirst⟩ | ⟨hworking, -⟩
  · exact absurd hfirst hinner.1.ne'
  · exact ⟨hworking, hinner, rfl⟩

/-- The end of the project is a working day inside the range. -/
theorem isNumbered_finish (hrec : ∀ i, (p.task i).IsUnrecorded)
    (hfinish : lastFinish? (p.early shifts) = some finish) :
    p.calendar.onOrBefore finish = finish ∧
      p.calendar.IsNumbered finish (p.calendar.rank finish) := by
  obtain ⟨⟨i, own, hown, rfl⟩, -⟩ := lastFinish?_eq_some_iff.mp hfinish
  have hworking := ((isSpan_early h hin (hrec i) hown).rank_atEnd .finish).1
  have heq := Calendar.onOrBefore_of_isWorking hworking
  have hnumbered := isNumbered_onOrBefore hin hfinish
  rw [Span.atEnd_finish] at heq
  rw [heq] at hnumbered
  exact ⟨heq, hnumbered⟩

omit h in
theorem inner_latestWalks (hfinish : lastFinish? (p.early shifts) = some finish)
    (hown : (p.early shifts).get i = some own) {link : Link n} (hlink : link ∈ p.network.links)
    (hp : link.predecessor = i) {b : Span}
    (hb : (p.late (p.early shifts) finish).get link.successor = some b) :
    ∀ d ∈ link.relation.latestWalks p.calendar b (p.keptDays (p.task i) own), d.IsInner := by
  intro d hd
  refine hin.inner_late hfinish hown d ?_
  refine List.mem_append_left _ (List.mem_append_right _ (List.mem_flatMap.mpr ⟨link, ?_, ?_⟩))
  · exact mem_linksOutOf.mpr ⟨hlink, hp⟩
  · rwa [hb]

omit h in
/-- The walk back from the last working day of the project. -/
theorem inner_lastStart (hfinish : lastFinish? (p.early shifts) = some finish)
    (hown : (p.early shifts).get i = some own) :
    ∀ d ∈ p.calendar.startWalk (p.calendar.onOrBefore finish) (p.keptDays (p.task i) own),
      d.IsInner := by
  intro d hd
  exact hin.inner_late hfinish hown d (List.mem_append_left _ (List.mem_append_left _ hd))

/-- The walk back from the end of the project. -/
theorem inner_lastWalk (hrec : ∀ i, (p.task i).IsUnrecorded)
    (hfinish : lastFinish? (p.early shifts) = some finish)
    (hown : (p.early shifts).get i = some own) :
    ∀ d ∈ p.calendar.startWalk finish (p.task i).days, d.IsInner := by
  have hwalk := inner_lastStart hin hfinish hown
  rwa [(isNumbered_finish h hin hrec hfinish).1, keptDays_eq h hin (hrec i) hown] at hwalk

/-- **Inside the range, a late span has the working days that its task keeps**, whatever days are
recorded. Its start is the one that the end of the project leaves or a limit, each of which is where
a walk has ended. -/
theorem isSpan_late_kept (hfinish : lastFinish? (p.early shifts) = some finish)
    (hown : (p.early shifts).get i = some own)
    (hspan : (p.late (p.early shifts) finish).get i = some span) :
    p.calendar.IsSpan (p.keptDays (p.task i) own) span := by
  obtain ⟨heq, hmem, -⟩ := late_cases h hown hspan
  have hwalk : ∀ d ∈ p.calendar.finishWalk span.start (p.keptDays (p.task i) own), d.IsInner := by
    intro d hd
    refine hin.inner_late hfinish hown d (List.mem_append_right _ ?_)
    rwa [hspan]
  have hstart : ∃ k, p.calendar.IsNumbered span.start k := by
    rcases List.mem_cons.mp hmem with hlastStart | hlimit
    · rw [hlastStart]
      exact ⟨_, (isNumbered_onOrBefore hin hfinish).startFor (inner_lastStart hin hfinish hown)⟩
    · obtain ⟨link, hlink, hp, b, hb, hstart⟩ := mem_startLimits.mp hlimit
      rw [← hstart]
      exact ⟨_, Relation.isNumbered_latestStart (inner_latestWalks hin hfinish hown hlink hp hb)⟩
  obtain ⟨k, hk⟩ := hstart
  rw [heq]
  exact hk.isSpan hwalk

/-- **Inside the range, a late span has the working days of its task.** -/
theorem isSpan_late (hrec : (p.task i).IsUnrecorded)
    (hfinish : lastFinish? (p.early shifts) = some finish)
    (hown : (p.early shifts).get i = some own)
    (hspan : (p.late (p.early shifts) finish).get i = some span) :
    p.calendar.IsSpan (p.task i).days span := by
  have hkept := isSpan_late_kept h hin hfinish hown hspan
  rwa [keptDays_eq h hin hrec hown] at hkept

end Inside

end Workplan.Plan

/-! ## A small project

Three days of work are followed by a release on the next working day, and one day of review
beside them may take its time until then. -/

namespace Workplan.Sample

/-- Monday, 6 May 2024. -/
def monday : Day := ⟨96485141, by decide⟩

def tasks : Vector Task 3 :=
  #v[{ id := "draft", duration := some 3 }, { id := "review", duration := some 1 },
    { id := "release", duration := some 0 }]

def dependencies : List Dependency :=
  [{ predecessor := "draft", successor := "release", relation := { lag := 1 } },
    { predecessor := "review", successor := "release", relation := { target := .finish } }]

def settings : Settings := { projectStart := some monday }

def network : Network 3 where
  tasks := tasks
  index :=
    { positions := .ofList [("draft", (0 : Fin 3)), ("review", 1), ("release", 2)]
      ids := #["draft", "review", "release"] }
  links := [⟨0, 2, { lag := 1 }⟩, ⟨1, 2, { target := .finish }⟩]
  order := [0, 1, 2]

/-- The same network of other tasks with these ids. -/
def networkOf (others : Vector Task 3) : Network 3 := { network with tasks := others }

/-- The network of a single task. -/
def lone (only : Vector Task 1) : Network 1 where
  tasks := only
  index := ⟨.ofList [((only.get 0).id, (0 : Fin 1))], #[(only.get 0).id]⟩
  links := []
  order := [0]

def plan : Plan 3 := ⟨.standard, network, some monday⟩

set_option maxRecDepth 4000 in
theorem ofProject_eq : Plan.ofProject .standard tasks dependencies settings = .ok plan := by rfl

theorem isUnrecorded : ∀ i, (tasks.get i).IsUnrecorded := by decide

theorem staysInside : plan.StaysInside (Shifts.none 3) := by decide

end Workplan.Sample
