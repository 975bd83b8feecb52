import Workplan.Plan.Schedule
import Workplan.Proofs.Network.Order
import Workplan.Proofs.Propagation
import Workplan.Proofs.Span

/-!
# The equations of a plan

On an ordered network the early span of a task is the one that its predecessors' early spans
give it, and the late span the one that its successors' late spans leave it. Everything
known of early and late dates follows from these equations, by induction along the order.

## Main results

* `early_eq`, `late_eq`: the equations
* `mem_startBounds`, `mem_startLimits`: the bounds and limits of a task, link by link
* `plannedStart?_cases`, `recordedSpan?_cases`: where an early start comes from
* `early_cases`: the same of a task without recorded days
* `late_cases`: where the late start of a task comes from
* `isSome_early_congr`: shifts do not change which tasks are planned
* `earliestStart_le`, `le_latestStart`: starts keep the bounds and limits of all links
-/

namespace Workplan

variable {n : Nat}

/-- No first or last day is recorded. -/
def Task.IsUnrecorded (t : Task) : Prop := t.began = none ∧ t.ended = none

instance (t : Task) : Decidable t.IsUnrecorded := inferInstanceAs (Decidable (_ ∧ _))

theorem Task.isUnrecorded_iff (t : Task) : t.IsUnrecorded ↔ (t.began <|> t.ended) = none := by
  unfold IsUnrecorded
  cases t.began <;> cases t.ended <;> simp

namespace Plan

theorem ofProject_eq_ok {calendar : Calendar} {tasks : Vector Task n}
    {dependencies : List Dependency} {settings : Settings} {p : Plan n}
    (h : ofProject calendar tasks dependencies settings = .ok p) :
    p.calendar = calendar ∧ Network.ofProject tasks dependencies = .ok p.network ∧
      p.projectStart = settings.projectStart := by
  unfold ofProject at h
  cases hnet : Network.ofProject tasks dependencies with
  | error e => rw [hnet] at h; cases h
  | ok net =>
    rw [hnet] at h
    cases h
    exact ⟨rfl, rfl, rfl⟩

variable {p : Plan n} {shifts : Shifts n} {i : Fin n} {early late : Vector (Option Span) n}

@[simp] theorem get_none (i : Fin n) : (Shifts.none n).get i = 0 := by
  simp [Shifts.none, Vector.get]

@[simp] theorem shifted_zero (start : Day) : p.shifted start 0 = start := if_pos rfl

/-! ## Bounds and limits

A pass along the network reads them off the tables of the tasks next to each one. There they stand
in the order of the links, from which both tables are made. -/

theorem startBounds_eq : p.startBounds i early = (p.network.incoming i).filterMap fun link =>
    (early.get link.predecessor).map fun span =>
      link.relation.earliestStart p.calendar span (p.task i).days := by
  rw [startBounds, Network.predecessors_eq, List.filterMap_map]
  rfl

theorem startLimits_eq {days : Nat} :
    p.startLimits i days late = (p.network.outgoing i).filterMap fun link =>
      (late.get link.successor).map fun span =>
        link.relation.latestStart p.calendar span days := by
  rw [startLimits, Network.successors_eq, List.filterMap_map]
  rfl

theorem mem_startBounds {x : Day} :
    x ∈ p.startBounds i early ↔ ∃ link ∈ p.network.links, link.successor = i ∧
      ∃ a, early.get link.predecessor = some a ∧
        link.relation.earliestStart p.calendar a (p.task i).days = x := by
  simp [startBounds_eq, Network.incoming, and_assoc]

theorem mem_startLimits {days : Nat} {x : Day} :
    x ∈ p.startLimits i days late ↔ ∃ link ∈ p.network.links, link.predecessor = i ∧
      ∃ a, late.get link.successor = some a ∧
        link.relation.latestStart p.calendar a days = x := by
  simp [startLimits_eq, Network.outgoing, and_assoc]

theorem startBounds_congr {early' : Vector (Option Span) n}
    (h : ∀ link ∈ p.network.links, link.successor = i →
      early.get link.predecessor = early'.get link.predecessor) :
    p.startBounds i early = p.startBounds i early' := by
  rw [startBounds_eq, startBounds_eq]
  apply List.filterMap_congr
  intro link hlink
  obtain ⟨hlink, hs⟩ := mem_linksInto.mp hlink
  rw [h link hlink hs]

/-- A task has no bounds exactly if none of its predecessors are planned. -/
theorem startBounds_eq_nil_iff : p.startBounds i early = [] ↔
    ∀ link ∈ p.network.links, link.successor = i →
      (early.get link.predecessor).isSome = false := by
  simp only [startBounds_eq, List.filterMap_eq_nil_iff, Network.incoming, mem_linksInto,
    Option.map_eq_none_iff, Option.isSome_eq_false_iff, Option.isNone_iff_eq_none, and_imp]

/-- Whether a task has bounds depends only on which of its predecessors are planned. -/
theorem startBounds_eq_nil_congr {early' : Vector (Option Span) n}
    (h : ∀ link ∈ p.network.links, link.successor = i →
      (early.get link.predecessor).isSome = (early'.get link.predecessor).isSome) :
    p.startBounds i early = [] ↔ p.startBounds i early' = [] := by
  rw [startBounds_eq_nil_iff, startBounds_eq_nil_iff]
  exact forall_congr' fun link => forall_congr' fun hlink => forall_congr' fun hs => by
    rw [h link hlink hs]

theorem startLimits_congr {days : Nat} {late' : Vector (Option Span) n}
    (h : ∀ link ∈ p.network.links, link.predecessor = i →
      late.get link.successor = late'.get link.successor) :
    p.startLimits i days late = p.startLimits i days late' := by
  rw [startLimits_eq, startLimits_eq]
  apply List.filterMap_congr
  intro link hlink
  obtain ⟨hlink, hp⟩ := mem_linksOutOf.mp hlink
  rw [h link hlink hp]

/-! ## The equations -/

/-- **The early span of a task comes from those of its predecessors.** -/
theorem early_eq (h : p.network.IsOrdered) (shifts : Shifts n) (i : Fin n) :
    (p.early shifts).get i = p.earlySpan? shifts i (p.early shifts) := by
  apply get_propagate h.nodup (h.mem_order i)
  intro front back horder table table' htable
  have hbounds : p.startBounds i table = p.startBounds i table' :=
    startBounds_congr fun link hlink hs => htable _ (h.mem_front horder hlink hs)
  simp only [earlySpan?, plannedStart?, hbounds]

/-- **The late span of a task comes from those of its successors.** The pass goes against the order,
so that what it has filled in when it comes to a task is what stands behind that in the order. -/
theorem late_eq (h : p.network.IsOrdered) (early : Vector (Option Span) n) (finish : Day)
    (i : Fin n) :
    (p.late early finish).get i = p.lateSpan? early finish i (p.late early finish) := by
  apply get_propagate (List.nodup_reverse.mpr h.nodup) (List.mem_reverse.mpr (h.mem_order i))
  intro front back horder table table' htable
  have horder' : p.network.order = back.reverse ++ i :: front.reverse := by
    simpa using congrArg List.reverse horder
  have hlimits : ∀ days, p.startLimits i days table = p.startLimits i days table' :=
    fun days => startLimits_congr fun link hlink hp =>
      htable _ (List.mem_reverse.mp (h.mem_back horder' hlink hp))
  simp only [lateSpan?, hlimits]

/-! ## The end of the project -/

theorem mem_finishes {d : Day} :
    d ∈ early.toList.filterMap (fun span => span.map (·.finish)) ↔
      ∃ i own, early.get i = some own ∧ own.finish = d := by
  simp only [List.mem_filterMap, Vector.mem_toList_iff, Vector.mem_iff_getElem,
    Option.map_eq_some_iff]
  constructor
  · rintro ⟨_, ⟨i, hi, rfl⟩, own, hown, rfl⟩
    exact ⟨⟨i, hi⟩, own, hown, rfl⟩
  · rintro ⟨i, own, hown, rfl⟩
    exact ⟨some own, ⟨i, i.isLt, hown⟩, own, rfl, rfl⟩

theorem lastFinish?_eq_some_iff {finish : Day} :
    lastFinish? early = some finish ↔
      (∃ i own, early.get i = some own ∧ own.finish = finish) ∧
        ∀ i own, early.get i = some own → own.finish ≤ finish := by
  rw [lastFinish?, List.max?_eq_some_iff]
  simp only [mem_finishes]
  refine and_congr_right fun _ => ⟨?_, ?_⟩
  · intro h i own hown
    exact h _ ⟨i, own, hown, rfl⟩
  · rintro h _ ⟨i, own, hown, rfl⟩
    exact h i own hown

theorem lastFinish?_eq_none_iff : lastFinish? early = none ↔ ∀ i, early.get i = none := by
  rw [lastFinish?, List.max?_eq_none_iff, List.eq_nil_iff_forall_not_mem]
  simp only [mem_finishes, not_exists, not_and, Option.eq_none_iff_forall_ne_some]
  constructor
  · intro h i own hown
    exact h own.finish i own hown rfl
  · intro h _ i own hown _
    exact h i own hown

/-! ## Which tasks are planned -/

/-- A task has a planned start if it has a bound or an anchor. -/
theorem isSome_plannedStart? : (p.plannedStart? shifts i early).isSome ↔
    p.startBounds i early ≠ [] ∨ ((p.task i).anchor <|> p.projectStart).isSome := by
  unfold plannedStart?
  cases hb : (p.startBounds i early).max? with
  | none => simp [List.max?_eq_none_iff.mp hb]
  | some bound =>
    have hne : p.startBounds i early ≠ [] := by
      intro hnil
      rw [hnil] at hb
      cases hb
    simp [hne]

/-- A task has a span if it has a recorded day or a planned start. -/
theorem isSome_recordedSpan? (t : Task) (planned : Option Day) :
    (p.recordedSpan? t planned).isSome = (t.ended.isSome || t.began.isSome || planned.isSome) := by
  unfold recordedSpan?
  cases t.ended <;> cases t.began <;> cases planned <;> rfl

/-- **Which tasks are planned does not depend on the shifts.** They move the bounds of a task, but
whether it has any is up to its predecessors, and so the induction goes along the order. -/
theorem isSome_early_congr (h : p.network.IsOrdered) (shifts shifts' : Shifts n) (i : Fin n) :
    ((p.early shifts).get i).isSome = ((p.early shifts').get i).isSome := by
  induction i using h.induction_along with
  | step i ih =>
    have hplanned : (p.plannedStart? shifts i (p.early shifts)).isSome =
        (p.plannedStart? shifts' i (p.early shifts')).isSome := by
      rw [Bool.eq_iff_iff, isSome_plannedStart?, isSome_plannedStart?, Ne, Ne,
        startBounds_eq_nil_congr ih]
    rw [early_eq h, early_eq h, earlySpan?, earlySpan?]
    split
    · rfl
    · rw [isSome_recordedSpan?, isSome_recordedSpan?, hplanned]

/-- A task that is planned under some shifts is planned under any others. -/
theorem exists_early_congr (h : p.network.IsOrdered) {own : Span}
    (hown : (p.early shifts).get i = some own) (shifts' : Shifts n) :
    ∃ own', (p.early shifts').get i = some own' := by
  rw [← Option.isSome_iff_exists, ← isSome_early_congr h shifts, hown, Option.isSome_some]

/-! ## Where early dates come from -/

/-- **Where a planned start comes from**: from the latest of the bounds, or without any from
the anchor. -/
theorem plannedStart?_cases {start : Day} (h : p.plannedStart? shifts i early = some start) :
    (∃ bound ∈ p.startBounds i early, (∀ x ∈ p.startBounds i early, x ≤ bound) ∧
        start = max (p.shifted bound (shifts.get i)) bound) ∨
      (p.startBounds i early = [] ∧
        ∃ anchor, ((p.task i).anchor <|> p.projectStart) = some anchor ∧
          start = p.shifted (p.calendar.onOrAfter anchor) (shifts.get i)) := by
  unfold plannedStart? at h
  split at h
  · next bound hbound =>
    cases h
    obtain ⟨hmem, hle⟩ := List.max?_eq_some_iff.mp hbound
    exact Or.inl ⟨bound, hmem, hle, rfl⟩
  · next hnone =>
    obtain ⟨anchor, hanchor, rfl⟩ := Option.map_eq_some_iff.mp h
    exact Or.inr ⟨List.max?_eq_none_iff.mp hnone, anchor, hanchor, rfl⟩

/-- A planned start keeps all bounds. -/
theorem le_plannedStart? {start x : Day} (h : p.plannedStart? shifts i early = some start)
    (hx : x ∈ p.startBounds i early) : x ≤ start := by
  rcases plannedStart?_cases h with ⟨bound, -, hle, rfl⟩ | ⟨hnil, -⟩
  · exact (hle x hx).trans (le_max_right _ _)
  · rw [hnil] at hx
    cases hx

/-- Without a recorded end a task takes its days from its start on, which is the later one of
its planned and its recorded start. -/
theorem recordedSpan?_cases {t : Task} {planned : Option Day} {own : Span} (hend : t.ended = none)
    (h : p.recordedSpan? t planned = some own) :
    own = p.calendar.spanFrom own.start t.days ∧ (own.start ∈ t.began ∨ own.start ∈ planned) ∧
      (∀ start ∈ t.began, start ≤ own.start) ∧ ∀ start ∈ planned, start ≤ own.start := by
  unfold recordedSpan? at h
  rw [hend] at h
  cases hbegan : t.began with
  | none =>
    cases planned with
    | none => rw [hbegan] at h; cases h
    | some start =>
      rw [hbegan] at h
      cases h
      simp [Calendar.spanFrom]
  | some began =>
    cases planned with
    | none =>
      rw [hbegan] at h
      cases h
      simp [Calendar.spanFrom]
    | some start =>
      rw [hbegan] at h
      cases h
      have hchoice : max began start = began ∨ max began start = start := max_choice began start
      simp only [Calendar.spanFrom, Option.mem_some_iff, forall_eq', true_and]
      exact ⟨hchoice.imp Eq.symm Eq.symm, le_max_left _ _, le_max_right _ _⟩

/-- The early span of a task is made from its planned start and its recorded days. -/
theorem early_eq_recordedSpan? (h : p.network.IsOrdered) {own : Span}
    (hown : (p.early shifts).get i = some own) :
    p.recordedSpan? (p.task i) (p.plannedStart? shifts i (p.early shifts)) = some own := by
  rw [early_eq h, earlySpan?] at hown
  split at hown
  · cases hown
  · exact hown

/-- An early start keeps the bound of every link, unless the end of the task is recorded. With a
bound there is a planned start, which is not before it, and a recorded start only delays that. -/
theorem earliestStart_le (h : p.network.IsOrdered) {link : Link n} (hlink : link ∈ p.network.links)
    (hend : (p.task link.successor).ended = none) {a own : Span}
    (ha : (p.early shifts).get link.predecessor = some a)
    (hown : (p.early shifts).get link.successor = some own) :
    link.relation.earliestStart p.calendar a (p.task link.successor).days ≤ own.start := by
  have hbound := mem_startBounds.mpr ⟨link, hlink, rfl, a, ha, rfl⟩
  obtain ⟨start, hstart⟩ := Option.isSome_iff_exists.mp (isSome_plannedStart?.mpr
    (Or.inl (List.ne_nil_of_mem hbound)) : (p.plannedStart? shifts _ (p.early shifts)).isSome)
  have hplanned := (recordedSpan?_cases hend (early_eq_recordedSpan? h hown)).2.2.2 start hstart
  exact (le_plannedStart? hstart hbound).trans hplanned

/-- **Where the early start of a task comes from**, if none of its days are recorded: from
the latest of its bounds, or without any from its anchor. -/
theorem early_cases (h : p.network.IsOrdered) (hrec : (p.task i).IsUnrecorded) {own : Span}
    (hown : (p.early shifts).get i = some own) :
    own = p.calendar.spanFrom own.start (p.task i).days ∧
      ((∃ bound ∈ p.startBounds i (p.early shifts),
          (∀ x ∈ p.startBounds i (p.early shifts), x ≤ bound) ∧
          own.start = max (p.shifted bound (shifts.get i)) bound) ∨
        (p.startBounds i (p.early shifts) = [] ∧
          ∃ anchor, ((p.task i).anchor <|> p.projectStart) = some anchor ∧
            own.start = p.shifted (p.calendar.onOrAfter anchor) (shifts.get i))) := by
  obtain ⟨hspan, hstart, -⟩ := recordedSpan?_cases hrec.2 (early_eq_recordedSpan? h hown)
  rw [hrec.1] at hstart
  exact ⟨hspan, plannedStart?_cases (hstart.resolve_left nofun)⟩

/-! ## Late dates -/

theorem isSome_late (h : p.network.IsOrdered) (early : Vector (Option Span) n) (finish : Day)
    (i : Fin n) : ((p.late early finish).get i).isSome = (early.get i).isSome := by
  rw [late_eq h, lateSpan?, Option.isSome_map]

/-- The latest start that the end of the project leaves to a task. -/
def lastStart (p : Plan n) (finish : Day) (days : Nat) : Day :=
  p.calendar.startFor (p.calendar.onOrBefore finish) days

/-- **Where the late start of a task comes from**: from the end of the project or from one of
its limits, whichever is first. -/
theorem late_cases (h : p.network.IsOrdered) {finish : Day} {own span : Span}
    (hown : early.get i = some own) (hspan : (p.late early finish).get i = some span) :
    span = p.calendar.spanFrom span.start (p.keptDays (p.task i) own) ∧
      span.start ∈ p.lastStart finish (p.keptDays (p.task i) own) ::
        p.startLimits i (p.keptDays (p.task i) own) (p.late early finish) ∧
      ∀ x ∈ p.lastStart finish (p.keptDays (p.task i) own) ::
        p.startLimits i (p.keptDays (p.task i) own) (p.late early finish), span.start ≤ x := by
  rw [late_eq h, lateSpan?, hown] at hspan
  cases hspan
  exact ⟨rfl, List.min?_eq_some_iff.mp List.min?_cons'⟩

/-- A late start keeps the limit of every link. -/
theorem le_latestStart (h : p.network.IsOrdered) {link : Link n} (hlink : link ∈ p.network.links)
    {finish : Day} {own span b : Span} (hown : early.get link.predecessor = some own)
    (hspan : (p.late early finish).get link.predecessor = some span)
    (hb : (p.late early finish).get link.successor = some b) :
    span.start ≤ link.relation.latestStart p.calendar b
      (p.keptDays (p.task link.predecessor) own) :=
  (late_cases h hown hspan).2.2 _ (List.mem_cons_of_mem _
    (mem_startLimits.mpr ⟨link, hlink, rfl, b, hb, rfl⟩))

end Plan

end Workplan
