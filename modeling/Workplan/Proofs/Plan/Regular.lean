import Workplan.Proofs.Plan.Walk

/-!
# Regular plans

A plan is regular if no first or last day of its tasks is recorded and none of its walks stops
at an end of the range of days. The early and late span of a planned task are then known by
their starts alone, and each start comes from a bound that a link derives from the start at
its other end.

## Main definitions

* `Plan.IsPlanned`: a task that gets dates
* `Plan.earlyStart`, `Plan.lateStart`, `Plan.spanAt`: the starts of the tasks, and the spans
  of their lengths from some starts on
* `Plan.IsRegular`: no recorded days, inside the range of days, with a last finish

## Main results

* `IsRegular.early_get_eq`, `IsRegular.late_get_eq`: the spans are known by their starts
* `IsRegular.earlyStart_cases`, `IsRegular.lateStart_cases`: what a start comes from
-/

namespace Workplan

variable {n : Nat}

/-- The starts of a table of spans; where there is no span, the first day of the range stands
in. -/
def startOf (spans : Vector (Option Span) n) (i : Fin n) : Day :=
  ((spans.get i).map (·.start)).getD Day.first

theorem startOf_eq {spans : Vector (Option Span) n} {i : Fin n} {span : Span}
    (h : spans.get i = some span) : startOf spans i = span.start := by
  rw [startOf, h, Option.map_some, Option.getD_some]

namespace Plan

section Definitions

variable (p : Plan n)

/-- A task that gets dates. -/
def IsPlanned (i : Fin n) : Prop := ((p.early (Shifts.none n)).get i).isSome

instance (i : Fin n) : Decidable (p.IsPlanned i) :=
  inferInstanceAs (Decidable (Option.isSome _ = true))

/-- The early start of a planned task. -/
def earlyStart (shifts : Shifts n) (i : Fin n) : Day := startOf (p.early shifts) i

/-- The late start of a planned task. -/
def lateStart (shifts : Shifts n) (finish : Day) (i : Fin n) : Day :=
  startOf (p.late (p.early shifts) finish) i

/-- The span of a task from its start on. -/
def spanAt (starts : Fin n → Day) (i : Fin n) : Span :=
  p.calendar.spanFrom (starts i) (p.task i).days

/-- A plan of a project without recorded days that stays inside the range of days under some
shifts, with its last finish. -/
structure IsRegular (dependencies : List Dependency) (shifts : Shifts n) (finish : Day) :
    Prop where
  network_eq : Network.ofProject p.network.tasks dependencies = .ok p.network
  isUnrecorded : ∀ i, (p.task i).IsUnrecorded
  staysInside : p.StaysInside shifts
  lastFinish_eq : lastFinish? (p.early shifts) = some finish

end Definitions

variable {p : Plan n} {dependencies : List Dependency} {shifts : Shifts n} {finish : Day}
  {i : Fin n} {link : Link n}

@[simp] theorem spanAt_start (starts : Fin n → Day) (i : Fin n) :
    (p.spanAt starts i).start = starts i := rfl

theorem isPlanned_iff (h : p.network.IsOrdered) (shifts : Shifts n) :
    p.IsPlanned i ↔ ∃ own, (p.early shifts).get i = some own := by
  rw [IsPlanned, isSome_early_congr h _ shifts, Option.isSome_iff_exists]

theorem isPlanned_iff_late (h : p.network.IsOrdered) (shifts : Shifts n) (finish : Day) :
    p.IsPlanned i ↔ ∃ span, (p.late (p.early shifts) finish).get i = some span := by
  rw [IsPlanned, isSome_early_congr h _ shifts, ← isSome_late h _ finish,
    Option.isSome_iff_exists]

theorem early_get_eq_none (hi : ¬ p.IsPlanned i) : (p.early (Shifts.none n)).get i = none := by
  simpa [IsPlanned] using hi

theorem late_get_eq_none (h : p.network.IsOrdered) (finish : Day) (hi : ¬ p.IsPlanned i) :
    (p.late (p.early (Shifts.none n)) finish).get i = none := by
  rw [IsPlanned, ← isSome_late h _ finish i] at hi
  simpa using hi

namespace IsRegular

variable (hr : p.IsRegular dependencies shifts finish)

include hr

theorem isOrdered : p.network.IsOrdered := Network.isOrdered_of_ofProject hr.network_eq

/-! ## Early starts -/

/-- **The early span of a planned task is known by its start.** -/
theorem early_get_eq (hi : p.IsPlanned i) :
    (p.early shifts).get i = some (p.spanAt (p.earlyStart shifts) i) := by
  obtain ⟨own, hown⟩ := (isPlanned_iff hr.isOrdered shifts).mp hi
  rw [spanAt, earlyStart, startOf_eq hown, hown]
  exact congrArg some (early_cases hr.isOrdered (hr.isUnrecorded i) hown).1

theorem isSpan_early (hi : p.IsPlanned i) :
    p.calendar.IsSpan (p.task i).days (p.spanAt (p.earlyStart shifts) i) :=
  Plan.isSpan_early hr.isOrdered hr.staysInside (hr.isUnrecorded i) (hr.early_get_eq hi)

theorem isWorking_early (hi : p.IsPlanned i) : p.calendar.isWorking (p.earlyStart shifts i) :=
  (hr.isSpan_early hi).isWorking

/-- The walks to the bound of a link are inside the range. -/
theorem inner_earliest (hlink : link ∈ p.network.links) (hp : p.IsPlanned link.predecessor)
    (hs : p.IsPlanned link.successor) :
    ∀ d ∈ link.relation.earliestWalks p.calendar (p.spanAt (p.earlyStart shifts) link.predecessor)
      (p.task link.successor).days, d.IsInner :=
  inner_earliestWalks hr.isOrdered hr.staysInside (hr.early_get_eq hs) hlink rfl
    (hr.early_get_eq hp)

/-- An early start keeps the bound of every link. -/
theorem earliest_le (hlink : link ∈ p.network.links) (hp : p.IsPlanned link.predecessor)
    (hs : p.IsPlanned link.successor) :
    link.relation.earliestStart p.calendar (p.spanAt (p.earlyStart shifts) link.predecessor)
      (p.task link.successor).days ≤ p.earlyStart shifts link.successor :=
  earliestStart_le hr.isOrdered hlink (hr.isUnrecorded _).2 (hr.early_get_eq hp)
    (hr.early_get_eq hs)

/-- **What an early start comes from**: the bound of a link, or without any the anchor. -/
theorem earlyStart_cases (hi : p.IsPlanned i) :
    (∃ link ∈ p.network.links, link.successor = i ∧ p.IsPlanned link.predecessor ∧
      ∃ bound, link.relation.earliestStart p.calendar
          (p.spanAt (p.earlyStart shifts) link.predecessor) (p.task link.successor).days = bound ∧
        p.earlyStart shifts i = max (p.shifted bound (shifts.get i)) bound) ∨
    p.startBounds i (p.early shifts) = [] := by
  rcases (early_cases hr.isOrdered (hr.isUnrecorded i) (hr.early_get_eq hi)).2 with
    ⟨bound, hbound, -, hstart⟩ | ⟨hnil, -⟩
  · left
    obtain ⟨link, hlink, rfl, a, ha, hearliest⟩ := mem_startBounds.mp hbound
    have hp : p.IsPlanned link.predecessor := (isPlanned_iff hr.isOrdered shifts).mpr ⟨a, ha⟩
    obtain rfl := Option.some.inj (ha.symm.trans (hr.early_get_eq hp))
    exact ⟨link, hlink, rfl, hp, bound, hearliest, hstart⟩
  · exact Or.inr hnil

/-! ## The end of the project -/

/-- The end of the project is a working day inside the range. -/
theorem isNumbered_finish : p.calendar.IsNumbered finish (p.calendar.rank finish) :=
  (Plan.isNumbered_finish hr.isOrdered hr.staysInside hr.isUnrecorded hr.lastFinish_eq).2

theorem onOrBefore_finish : p.calendar.onOrBefore finish = finish :=
  (Plan.isNumbered_finish hr.isOrdered hr.staysInside hr.isUnrecorded hr.lastFinish_eq).1

theorem finish_lt : finish < Day.last := hr.isNumbered_finish.isInner.2

/-- No task finishes early behind the end of the project. -/
theorem early_finish_le (hi : p.IsPlanned i) :
    (p.spanAt (p.earlyStart shifts) i).finish ≤ finish :=
  (lastFinish?_eq_some_iff.mp hr.lastFinish_eq).2 i _ (hr.early_get_eq hi)

/-- Some task finishes early on the end of the project. -/
theorem exists_early_finish_eq :
    ∃ i, p.IsPlanned i ∧ (p.spanAt (p.earlyStart shifts) i).finish = finish := by
  obtain ⟨⟨i, own, hown, hfinish⟩, -⟩ := lastFinish?_eq_some_iff.mp hr.lastFinish_eq
  have hi : p.IsPlanned i := (isPlanned_iff hr.isOrdered shifts).mpr ⟨own, hown⟩
  obtain rfl := Option.some.inj (hown.symm.trans (hr.early_get_eq hi))
  exact ⟨i, hi, hfinish⟩

/-! ## Late starts -/

theorem keptDays_eq (hi : p.IsPlanned i) :
    p.keptDays (p.task i) (p.spanAt (p.earlyStart shifts) i) = (p.task i).days :=
  Plan.keptDays_eq hr.isOrdered hr.staysInside (hr.isUnrecorded i) (hr.early_get_eq hi)

/-- **The late span of a planned task is known by its start.** -/
theorem late_get_eq (hi : p.IsPlanned i) : (p.late (p.early shifts) finish).get i =
    some (p.spanAt (p.lateStart shifts finish) i) := by
  obtain ⟨span, hspan⟩ := (isPlanned_iff_late hr.isOrdered shifts finish).mp hi
  have heq := (late_cases hr.isOrdered (hr.early_get_eq hi) hspan).1
  rw [hr.keptDays_eq hi] at heq
  rw [spanAt, lateStart, startOf_eq hspan, hspan]
  exact congrArg some heq

theorem isSpan_late (hi : p.IsPlanned i) :
    p.calendar.IsSpan (p.task i).days (p.spanAt (p.lateStart shifts finish) i) :=
  Plan.isSpan_late hr.isOrdered hr.staysInside (hr.isUnrecorded i) hr.lastFinish_eq
    (hr.early_get_eq hi) (hr.late_get_eq hi)

theorem isWorking_late (hi : p.IsPlanned i) :
    p.calendar.isWorking (p.lateStart shifts finish i) :=
  (hr.isSpan_late hi).isWorking

theorem lateStart_lt (hi : p.IsPlanned i) : p.lateStart shifts finish i < Day.last :=
  (hr.isSpan_late hi).atEnd_lt .start

/-- The walks to the limit of a link are inside the range. -/
theorem inner_latest (hlink : link ∈ p.network.links) (hp : p.IsPlanned link.predecessor)
    (hs : p.IsPlanned link.successor) :
    ∀ d ∈ link.relation.latestWalks p.calendar
      (p.spanAt (p.lateStart shifts finish) link.successor) (p.task link.predecessor).days,
      d.IsInner := by
  have hwalks := inner_latestWalks hr.staysInside hr.lastFinish_eq (hr.early_get_eq hp) hlink rfl
    (hr.late_get_eq hs)
  rwa [hr.keptDays_eq hp] at hwalks

/-- The walk back from the end of the project is inside the range. -/
theorem inner_last (hi : p.IsPlanned i) :
    ∀ d ∈ p.calendar.startWalk finish (p.task i).days, d.IsInner :=
  inner_lastWalk hr.isOrdered hr.staysInside hr.isUnrecorded hr.lastFinish_eq (hr.early_get_eq hi)

/-- A late start keeps the limit of every link. -/
theorem le_latest (hlink : link ∈ p.network.links) (hp : p.IsPlanned link.predecessor)
    (hs : p.IsPlanned link.successor) :
    p.lateStart shifts finish link.predecessor ≤ link.relation.latestStart p.calendar
      (p.spanAt (p.lateStart shifts finish) link.successor) (p.task link.predecessor).days := by
  have hle := le_latestStart hr.isOrdered hlink (hr.early_get_eq hp) (hr.late_get_eq hp)
    (hr.late_get_eq hs)
  rwa [hr.keptDays_eq hp] at hle

/-- No task finishes late behind the end of the project. -/
theorem late_finish_le (hi : p.IsPlanned i) :
    (p.spanAt (p.lateStart shifts finish) i).finish ≤ finish := by
  have hle := (late_cases hr.isOrdered (hr.early_get_eq hi) (hr.late_get_eq hi)).2.2 _
    List.mem_cons_self
  rw [hr.keptDays_eq hi, lastStart, hr.onOrBefore_finish] at hle
  exact ((hr.isSpan_late hi).finish_le_iff hr.isNumbered_finish (hr.inner_last hi)).mpr hle

/-- **What a late start comes from**: the end of the project or the limit of a link. -/
theorem lateStart_cases (hi : p.IsPlanned i) :
    p.lateStart shifts finish i = p.calendar.startFor finish (p.task i).days ∨
    ∃ link ∈ p.network.links, link.predecessor = i ∧ p.IsPlanned link.successor ∧
      link.relation.latestStart p.calendar (p.spanAt (p.lateStart shifts finish) link.successor)
        (p.task link.predecessor).days = p.lateStart shifts finish i := by
  have hmem := (late_cases hr.isOrdered (hr.early_get_eq hi) (hr.late_get_eq hi)).2.1
  rw [hr.keptDays_eq hi, lastStart, hr.onOrBefore_finish] at hmem
  rcases List.mem_cons.mp hmem with hlast | hlimit
  · exact Or.inl hlast
  · right
    obtain ⟨link, hlink, rfl, b, hb, hlatest⟩ := mem_startLimits.mp hlimit
    have hs : p.IsPlanned link.successor :=
      (isPlanned_iff_late hr.isOrdered shifts finish).mpr ⟨b, hb⟩
    obtain rfl := Option.some.inj (hb.symm.trans (hr.late_get_eq hs))
    exact ⟨link, hlink, rfl, hs, hlatest⟩

end IsRegular

end Plan

end Workplan
