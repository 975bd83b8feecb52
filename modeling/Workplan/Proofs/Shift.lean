import Workplan.Proofs.Network.Cycle
import Workplan.Proofs.Plan.Latest
import Workplan.Shift

/-!
# Shifts and slack

A shift delays the tasks behind the shifted one and leaves all others where they are. By
no more days than the slack of the task, the delayed early dates stay below the late dates of
the plan without shifts, and the end of the project stays; by more days it moves.

## Main definitions

* `ShiftRecord.IsFrom`, `ShiftRecord.IsTo`: the dates that a record tells

## Main results

* `early_eq_of_not_reaches`: what no shifted task leads to stays
* `early_eq_of_outgoing_eq_nil`: shifts of tasks that nothing depends on disturb no others
* `start_eq_of_startBounds_eq`: where a shifted task with unchanged bounds starts
* `shiftTask_eq_ok_iff`: which shifts by hand are carried out
* `earlyStart_delay`, `finish_delay`: shifts to later days only delay
* `finish_shift_eq_iff`: when a shift keeps the end of the project
* `shift_keeps_finish_iff`: a shift by hand keeps it exactly up to the slack of the task
-/

namespace Workplan.ShiftRecord

variable (r : ShiftRecord) (dates : Option Span)

/-- The shift starts from some dates. -/
def IsFrom : Prop := r.oldStart = dates.map (·.start) ∧ r.oldFinish = dates.map (·.finish)

/-- The shift leads to some dates. -/
def IsTo : Prop := r.newStart = dates.map (·.start) ∧ r.newFinish = dates.map (·.finish)

end Workplan.ShiftRecord

namespace Workplan.Plan

variable {n : Nat} {p : Plan n} {dependencies : List Dependency} {shifts : Shifts n}
  {i j : Fin n} {finish finish' : Day}

theorem get_add (shifts : Shifts n) (i j : Fin n) (days : Int) :
    (shifts.add i days).get j = if i = j then shifts.get i + days else shifts.get j :=
  get_setAt _ _ _ _

theorem get_add_none (i j : Fin n) (days : Int) :
    ((Shifts.none n).add i days).get j = if i = j then days else 0 := by
  rw [get_add, get_none, get_none, Int.zero_add]

theorem get_add_none_nonneg {days : Int} (h : 0 < days) (i j : Fin n) :
    0 ≤ ((Shifts.none n).add i days).get j := by
  rw [get_add_none]
  split <;> omega

theorem get_add_none_nonpos {days : Int} (h : days < 0) (i j : Fin n) :
    ((Shifts.none n).add i days).get j ≤ 0 := by
  rw [get_add_none]
  split <;> omega

theorem le_shifted {start : Day} {shift : Int} (h : 0 ≤ shift) : start ≤ p.shifted start shift := by
  unfold shifted
  split
  · exact le_rfl
  · exact Calendar.le_offset h

/-! ## What a shift leaves as it is -/

section Frame

variable (h : p.network.IsOrdered)

include h

/-- **What no shifted task leads to stays.** What leads to a predecessor of such a task leads to the
task as well, so that none of the predecessors is moved, and the induction goes along the order. -/
theorem early_eq_of_not_reaches {shifts' : Shifts n}
    (hj : ∀ i, shifts'.get i ≠ shifts.get i →
      ¬ Relation.ReflTransGen (Linked p.network.links) i j) :
    (p.early shifts').get j = (p.early shifts).get j := by
  induction j using h.induction_along with
  | step j ih =>
    have hown : shifts'.get j = shifts.get j := by
      by_contra hne
      exact hj j hne .refl
    have hbounds : p.startBounds j (p.early shifts') = p.startBounds j (p.early shifts) := by
      refine startBounds_congr fun link hlink hs => ih link hlink hs fun i hi hreaches => ?_
      exact hj i hi (hreaches.tail ⟨link, hlink, rfl, hs⟩)
    rw [early_eq h, early_eq h]
    simp only [earlySpan?, plannedStart?, hbounds, hown]

/-- A task stands in front of all that it leads to. -/
theorem idxOf_le_of_reaches (hreaches : Relation.ReflTransGen (Linked p.network.links) i j) :
    p.network.order.idxOf i ≤ p.network.order.idxOf j := by
  induction hreaches with
  | refl => exact Nat.le_refl _
  | tail _ hlinked ih =>
    obtain ⟨link, hlink, rfl, rfl⟩ := hlinked
    exact ih.trans (h.idxOf_lt link hlink).le

/-- A shifted task has the same bounds: it is the only one shifted, and does not lead to any of its
predecessors. -/
theorem startBounds_shift (shifts : Shifts n) (i : Fin n) (days : Int) :
    p.startBounds i (p.early (shifts.add i days)) = p.startBounds i (p.early shifts) := by
  refine startBounds_congr fun link hlink hs => early_eq_of_not_reaches h fun j hj hreaches => ?_
  obtain rfl : i = j := by
    by_contra hne
    exact hj (by rw [get_add, if_neg hne])
  have hlt := h.idxOf_lt link hlink
  rw [hs] at hlt
  exact absurd (idxOf_le_of_reaches h hreaches) (Nat.not_le.mpr hlt)

/-- Shifts do not change whether a task has bounds. -/
theorem startBounds_early_eq_nil_iff (shifts shifts' : Shifts n) (i : Fin n) :
    p.startBounds i (p.early shifts) = [] ↔ p.startBounds i (p.early shifts') = [] :=
  startBounds_eq_nil_congr fun _ _ _ => isSome_early_congr h shifts shifts' _

section Leaves

variable {shifts' : Shifts n}
  (hshifts : ∀ j, shifts'.get j ≠ shifts.get j → p.network.outgoing j = [])

include hshifts

/-- **Shifts of tasks that nothing depends on leave the others as they are.** -/
theorem early_eq_of_outgoing_eq_nil (hj : shifts'.get j = shifts.get j) :
    (p.early shifts').get j = (p.early shifts).get j := by
  refine early_eq_of_not_reaches h fun i hi hreaches => ?_
  rcases hreaches.cases_head with rfl | ⟨_, ⟨link, hlink, hp, -⟩, -⟩
  · exact hi hj
  · have hmem : link ∈ p.network.outgoing i := mem_linksOutOf.mpr ⟨hlink, hp⟩
    rw [hshifts i hi] at hmem
    cases hmem

/-- Shifts of tasks that nothing depends on leave all bounds as they are, since bounds come from
tasks that something depends on. -/
theorem startBounds_eq_of_outgoing_eq_nil (i : Fin n) :
    p.startBounds i (p.early shifts') = p.startBounds i (p.early shifts) := by
  refine startBounds_congr fun link hlink _ => early_eq_of_outgoing_eq_nil h hshifts ?_
  by_contra hne
  have hmem : link ∈ p.network.outgoing link.predecessor := mem_linksOutOf.mpr ⟨hlink, rfl⟩
  rw [hshifts _ hne] at hmem
  cases hmem

end Leaves

/-- **A task with unchanged bounds starts as many days later or earlier as it is shifted**, but
with a bound it starts no earlier than before. With the same bounds, both starts come from the same
one of them, or both from the anchor. -/
theorem start_eq_of_startBounds_eq (hrec : (p.task i).IsUnrecorded)
    (hbounds : p.startBounds i (p.early shifts) = p.startBounds i (p.early (Shifts.none n)))
    {own own' : Span} (hown : (p.early (Shifts.none n)).get i = some own)
    (hown' : (p.early shifts).get i = some own') :
    own'.start = if p.startBounds i (p.early (Shifts.none n)) = []
      then p.shifted own.start (shifts.get i)
      else max (p.shifted own.start (shifts.get i)) own.start := by
  have hcases := (early_cases h hrec hown).2
  have hcases' := (early_cases h hrec hown').2
  rw [hbounds] at hcases'
  rw [get_none] at hcases
  rcases hcases with ⟨bound, hmem, hle, hstart⟩ | ⟨hnil, anchor, hanchor, hstart⟩
  · rw [if_neg (List.ne_nil_of_mem hmem)]
    rcases hcases' with ⟨bound', hmem', hle', hstart'⟩ | ⟨hnil', -⟩
    · obtain rfl : bound = bound' := le_antisymm (hle' _ hmem) (hle _ hmem')
      rw [hstart, hstart', shifted_zero, max_self]
    · rw [hnil'] at hmem
      cases hmem
  · rw [if_pos hnil]
    rcases hcases' with ⟨bound', hmem', -, -⟩ | ⟨-, anchor', hanchor', hstart'⟩
    · rw [hnil] at hmem'
      cases hmem'
    · obtain rfl : anchor = anchor' := Option.some.inj (hanchor.symm.trans hanchor')
      rw [hstart, hstart', shifted_zero]

/-- A task with unchanged bounds starts as many days later as it is shifted. -/
theorem start_eq_shifted (hrec : (p.task i).IsUnrecorded) (hdelay : 0 ≤ shifts.get i)
    (hbounds : p.startBounds i (p.early shifts) = p.startBounds i (p.early (Shifts.none n)))
    {own own' : Span} (hown : (p.early (Shifts.none n)).get i = some own)
    (hown' : (p.early shifts).get i = some own') :
    own'.start = p.shifted own.start (shifts.get i) := by
  rw [start_eq_of_startBounds_eq h hrec hbounds hown hown', max_eq_left (le_shifted hdelay),
    ite_self]

end Frame

section Delay

variable (hr : p.IsRegular dependencies (Shifts.none n) finish)
  (hr' : p.IsRegular dependencies shifts finish') (hdelay : ∀ i, 0 ≤ shifts.get i)

include hr hr' hdelay

/-- A task with unchanged bounds starts as many days later as it is shifted. -/
theorem earlyStart_eq (hi : p.IsPlanned i)
    (hbounds : p.startBounds i (p.early shifts) = p.startBounds i (p.early (Shifts.none n))) :
    p.earlyStart shifts i = p.shifted (p.earlyStart (Shifts.none n) i) (shifts.get i) :=
  start_eq_shifted hr.isOrdered (hr.isUnrecorded i) (hdelay i) hbounds (hr.early_get_eq hi)
    (hr'.early_get_eq hi)

/-- A task without bounds starts as many days later as it is shifted. -/
theorem earlyStart_root (hi : p.IsPlanned i)
    (hnil : p.startBounds i (p.early (Shifts.none n)) = []) :
    p.earlyStart shifts i = p.shifted (p.earlyStart (Shifts.none n) i) (shifts.get i) := by
  apply earlyStart_eq hr hr' hdelay hi
  rw [(startBounds_early_eq_nil_iff hr.isOrdered shifts (Shifts.none n) i).mpr hnil, hnil]

/-- **Shifts to later days only delay.** -/
theorem earlyStart_delay (hi : p.IsPlanned i) :
    p.earlyStart (Shifts.none n) i ≤ p.earlyStart shifts i := by
  refine hr.earlyStart_le hr'.isFeasible_early hr'.finish_lt ?_ hi
  intro j hj hroot
  rcases hroot with hne | hnil
  · exact absurd (get_none j) hne
  · rw [earlyStart_root hr hr' hdelay hj hnil]
    exact le_shifted (hdelay j)

theorem finish_delay : finish ≤ finish' := by
  obtain ⟨i, hi, rfl⟩ := hr.exists_early_finish_eq
  calc (p.spanAt (p.earlyStart (Shifts.none n)) i).finish
      ≤ (p.spanAt (p.earlyStart shifts) i).finish :=
        Calendar.finishFrom_mono (earlyStart_delay hr hr' hdelay hi)
    _ ≤ finish' := hr'.early_finish_le hi

/-- **Shifted tasks that keep their late starts let the others keep theirs.** Late starts are
feasible, and early starts under the shifts are the least feasible ones among those that are as late
where a task is shifted, as is assumed here, or waits for nothing. In the latter case a task that is
not shifted starts where its anchor leaves it. -/
theorem earlyStart_le_unshifted_late
    (hshifted : ∀ j, p.IsPlanned j → shifts.get j ≠ 0 →
      p.earlyStart shifts j ≤ p.lateStart (Shifts.none n) finish j) (hi : p.IsPlanned i) :
    p.earlyStart shifts i ≤ p.lateStart (Shifts.none n) finish i := by
  refine hr'.earlyStart_le hr.isFeasible_late hr.finish_lt ?_ hi
  intro j hj hroot
  by_cases hzero : shifts.get j = 0
  · have hnil := (startBounds_early_eq_nil_iff hr.isOrdered _ (Shifts.none n) j).mp
      (hroot.resolve_left (not_not_intro hzero))
    rw [earlyStart_root hr hr' hdelay hj hnil, hzero, shifted_zero]
    exact hr.earlyStart_le_lateStart hj
  · exact hshifted j hj hzero

end Delay

/-! ## Shifting one task -/

section Single

variable {days : Int} (hdays : 1 ≤ days) (hr : p.IsRegular dependencies (Shifts.none n) finish)
  (hr' : p.IsRegular dependencies ((Shifts.none n).add i days) finish')

include hdays hr hr'

/-- A shifted task starts that many days later. -/
theorem earlyStart_shift (hi : p.IsPlanned i) : p.earlyStart ((Shifts.none n).add i days) i =
    p.calendar.offset (p.earlyStart (Shifts.none n) i) days := by
  have hbounds := startBounds_shift hr.isOrdered (Shifts.none n) i days
  rw [earlyStart_eq hr hr' (get_add_none_nonneg hdays i) hi hbounds, get_add_none,
    if_pos rfl, shifted, if_neg (by omega)]

/-- **A shift keeps the end of the project exactly if the task keeps its late start.** If the end is
kept, the early starts under the shift are feasible for it, and late starts are the greatest that
are. Conversely no early start passes the late one, and so no task finishes behind the end. -/
theorem finish_shift_eq_iff (hi : p.IsPlanned i) :
    finish' = finish ↔ p.calendar.offset (p.earlyStart (Shifts.none n) i) days ≤
      p.lateStart (Shifts.none n) finish i := by
  have hdelay := get_add_none_nonneg hdays i
  rw [← earlyStart_shift hdays hr hr' hi]
  constructor
  · rintro rfl
    exact hr.le_lateStart hr'.isFeasible_early hi
  · intro hle
    refine le_antisymm ?_ (finish_delay hr hr' hdelay)
    obtain ⟨j, hj, rfl⟩ := hr'.exists_early_finish_eq
    have hlate : p.earlyStart ((Shifts.none n).add i days) j ≤
        p.lateStart (Shifts.none n) finish j := by
      refine earlyStart_le_unshifted_late hr hr' hdelay ?_ hj
      intro l _ hne
      by_cases hl : i = l
      · exact hl ▸ hle
      · rw [get_add_none, if_neg hl] at hne
        exact absurd rfl hne
    exact (Calendar.finishFrom_mono hlate).trans (hr.late_finish_le hj)

end Single

/-! ## Shifting by hand -/

/-- A record tells the dates of its task in both schedules. -/
theorem dates_between (hnet : Network.ofProject p.network.tasks dependencies = .ok p.network)
    {shifts' : Shifts n} {s s' : Schedule} (hs : p.schedule shifts = .ok s)
    (hs' : p.schedule shifts' = .ok s') (i : Fin n) (days : Int) (cause : Option Overload)
    (reason : String) :
    (ShiftRecord.between (p.task i) days s s' cause reason).IsFrom (s.early? (p.task i).id) ∧
      (ShiftRecord.between (p.task i) days s s' cause reason).IsTo (s'.early? (p.task i).id) :=
  ⟨⟨earliestStart_schedule hnet hs i, earliestFinish_schedule hnet hs i⟩,
    earliestStart_schedule hnet hs' i, earliestFinish_schedule hnet hs' i⟩

/-- Accepted are shifts by some days of tasks without recorded days. -/
theorem acceptShift_eq_ok_iff {id : String} {days : Int} : p.acceptShift id days = .ok i ↔
    p.network.position? id = some i ∧ days ≠ 0 ∧ (p.task i).IsUnrecorded := by
  rw [Task.isUnrecorded_iff]
  unfold acceptShift
  cases p.network.position? id with
  | none => simp
  | some j =>
    dsimp only
    rw [Option.some_inj]
    constructor
    · intro h
      split at h
      · cases h
      · next hdays =>
        split at h
        · cases h
        · next hnone =>
          obtain rfl := Except.ok.inj h
          exact ⟨rfl, hdays, hnone⟩
    · rintro ⟨rfl, hdays, hnone⟩
      rw [if_neg hdays, hnone]

/-- A shift starts from the schedule without shifts, in which the task has a start. -/
theorem shiftBase_eq_ok_iff {id : String} {s : Schedule} : p.shiftBase id = .ok s ↔
    p.baseline = .ok s ∧ ((s.get? id).bind (·.earliestStart)).isSome := by
  rw [shiftBase, bind_eq_ok_iff]
  constructor
  · rintro ⟨base, hbase, h⟩
    split at h
    · cases h
    · next hstart =>
      cases h
      rw [Bool.not_eq_true, Option.isNone_eq_false_iff] at hstart
      exact ⟨hbase, hstart⟩
  · rintro ⟨hbase, hstart⟩
    refine ⟨s, hbase, ?_⟩
    rw [Option.isNone_eq_false_iff.mpr hstart]
    rfl

/-- **Which shifts by hand are carried out**, and how they are recorded. -/
theorem shiftTask_eq_ok_iff {id : String} {days : Int} {reason : String} {shifted : Schedule}
    {record : ShiftRecord} : p.shiftTask id days reason = .ok (shifted, record) ↔
    ∃ i s, p.acceptShift id days = .ok i ∧ p.shiftBase id = .ok s ∧
      p.schedule ((Shifts.none n).add i days) = .ok shifted ∧
      .between (p.task i) days s shifted none
        (if reason = "" then defaultReason else reason) = record := by
  simp only [shiftTask, bind_eq_ok_iff, pure, Except.pure, Except.ok.injEq, Prod.mk.injEq]
  constructor
  · rintro ⟨i, haccept, s, hbase, _, hshifted, rfl, rfl⟩
    exact ⟨i, s, haccept, hbase, hshifted, rfl⟩
  · rintro ⟨i, s, haccept, hbase, hshifted, rfl⟩
    exact ⟨i, haccept, s, hbase, shifted, hshifted, rfl, rfl⟩

/-- A shift of a task with dates and without recorded days is carried out. -/
theorem shiftTask_eq_ok (hnet : Network.ofProject p.network.tasks dependencies = .ok p.network)
    {s shifted : Schedule} {days : Int} (hs : p.baseline = .ok s)
    (hscheduled : s.isScheduled (p.task i).id) (hrec : (p.task i).IsUnrecorded) (hdays : days ≠ 0)
    (hshifted : p.schedule ((Shifts.none n).add i days) = .ok shifted) (reason : String) :
    p.shiftTask (p.task i).id days reason =
      .ok (shifted, .between (p.task i) days s shifted none
        (if reason = "" then defaultReason else reason)) := by
  have hposition : p.network.position? (p.task i).id = some i :=
    (Network.position?_eq_some_iff hnet).mpr rfl
  have hstart := Option.isSome_iff_exists.mpr (Schedule.exists_earliestStart hscheduled)
  exact shiftTask_eq_ok_iff.mpr ⟨i, s, acceptShift_eq_ok_iff.mpr ⟨hposition, hdays, hrec⟩,
    shiftBase_eq_ok_iff.mpr ⟨hs, hstart⟩, hshifted, rfl⟩

/-- **The slack of a task is exactly what it can be shifted by.** A shift by hand to later days
keeps the end of the project if it is no longer than the slack, and moves it to a later day
otherwise. -/
theorem shift_keeps_finish_iff {c : Calendar} {tasks : Vector Task n} {settings : Settings}
    {s : Schedule} {days : Int} (hp : ofProject c tasks dependencies settings = .ok p)
    (hs : p.baseline = .ok s) (hrec : ∀ i, (tasks.get i).IsUnrecorded)
    (hi : s.isScheduled (tasks.get i).id) (hdays : 1 ≤ days)
    (hin : p.StaysInside (Shifts.none n)) (hin' : p.StaysInside ((Shifts.none n).add i days))
    (reason : String) :
    ∃ slack shifted record, s.slack? (tasks.get i).id = some slack ∧
      shiftInProject c tasks dependencies settings (tasks.get i).id days reason =
        .ok (shifted, record) ∧
      (shifted.finish? = s.finish? ↔ days ≤ slack) ∧
      (slack < days → ∃ finish finish', s.finish? = some finish ∧
        shifted.finish? = some finish' ∧ finish < finish') := by
  obtain ⟨rfl, hnet, -⟩ := ofProject_eq_ok hp
  obtain rfl := Network.tasks_eq hnet
  have hplanned : p.IsPlanned i := (isScheduled_iff_isPlanned hnet hs i).mp hi
  -- the schedule without the shift
  obtain ⟨finish, hr⟩ := exists_isRegular hnet hrec hin hs hi
  obtain ⟨slack, hslack, hslackEq⟩ := hr.exists_slack?_schedule hs hplanned
  -- the schedule with it
  obtain ⟨shifted, hshifted⟩ := exists_schedule hr.isOrdered hs ((Shifts.none n).add i days)
  obtain ⟨finish', hr'⟩ := exists_isRegular hnet hrec hin' hshifted
    ((isScheduled_iff_isPlanned hnet hshifted i).mpr hplanned)
  have hdelay := finish_delay hr hr' (get_add_none_nonneg hdays i)
  have hiff : finish' = finish ↔ days ≤ slack := by
    rw [finish_shift_eq_iff hdays hr hr' hplanned,
      Calendar.offset_le_iff (hr.isWorking_late hplanned) (hr.lateStart_lt hplanned), hslackEq]
    omega
  obtain ⟨record, hrecord⟩ : ∃ record, shiftInProject p.calendar p.network.tasks dependencies
      settings (p.task i).id days reason = .ok (shifted, record) := by
    rw [shiftInProject, hp]
    exact ⟨_, shiftTask_eq_ok hnet hs hi (hrec i) (by omega) hshifted reason⟩
  refine ⟨slack, shifted, record, hslack, hrecord, ?_, ?_⟩
  · rw [hr.finish?_schedule hs, hr'.finish?_schedule hshifted, Option.some_inj]
    exact hiff
  · intro hlt
    refine ⟨finish, finish', hr.finish?_schedule hs, hr'.finish?_schedule hshifted, ?_⟩
    apply lt_of_le_of_ne hdelay
    intro heq
    exact absurd (hiff.mp heq.symm) (Int.not_le.mpr hlt)

end Workplan.Plan

namespace Workplan.Sample

/-- The review has a slack of three days, so a shift by four moves the release. -/
theorem shift_keeps_finish_iff_sample :
    ∃ slack shifted record, schedule.slack? "review" = some slack ∧
      shiftInProject .standard tasks dependencies settings "review" 4 "" =
        .ok (shifted, record) ∧
      (shifted.finish? = schedule.finish? ↔ 4 ≤ slack) ∧
      (slack < 4 → ∃ finish finish', schedule.finish? = some finish ∧
        shifted.finish? = some finish' ∧ finish < finish') :=
  Plan.shift_keeps_finish_iff (i := 1) ofProject_eq baseline_eq isUnrecorded (by decide)
    (by decide) staysInside (by decide) ""

end Workplan.Sample
