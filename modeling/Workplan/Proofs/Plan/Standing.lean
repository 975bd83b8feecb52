import Workplan.Proofs.Network.Numbering
import Workplan.Proofs.Plan.Anchored
import Workplan.Proofs.Plan.Latest

/-!
# Plans on different calendars

Where only the start of the project anchors a plan, and no walk stops at an end of the range, its
days are numbered by the working days behind the start. The numbers of early and late starts keep
the links as a network without a calendar does, and they are as early and as late as that allows;
so they are the same on any calendar and from any start. Slack, critical tasks and their order are
read off these numbers.

## Main definitions

* `Calendar.number`: the number of a day, in working days behind an origin
* `Standing`, `Timing.standing`: what a timing tells without naming days
* `Schedule.Agrees`: schedules on two calendars that agree on all but the days
* `Plan.IsAnchoredAt`: a regular plan that only the start of the project anchors

## Main results

* `criticalPath_eq_of_standing`: the critical path is read off the standings of the tasks
* `IsAnchoredAt.isEarlyNumbering`, `isLastNumber`, `isLateNumbering`: the numbers of a plan
* `standing_eq`: the standing of a task does not depend on the calendar
* `scheduleProject_on_calendars`: the schedules of a project on two calendars agree
-/

namespace Workplan

/-! ## Numbered days -/

namespace Calendar

/-- **The number of a day**: the working days from an origin, or the next working day, up to it. -/
def number (c : Calendar) (origin d : Day) : Int := c.rank d - c.rank (c.onOrAfter origin)

variable {c : Calendar} {origin d e : Day}

theorem number_mono (h : d ≤ e) : c.number origin d ≤ c.number origin e :=
  Int.sub_le_sub_right (Int.ofNat_le.mpr (rank_mono h)) _

theorem number_lt_number (hd : c.isWorking d) (h : d < e) :
    c.number origin d < c.number origin e :=
  Int.sub_lt_sub_right (Int.ofNat_lt.mpr (rank_lt_rank hd h)) _

/-- Working days are compared by their numbers. -/
theorem compare_number (origin : Day) (hd : c.isWorking d) (he : c.isWorking e) :
    compare (c.number origin d) (c.number origin e) = compare d e := by
  rcases lt_trichotomy d e with h | rfl | h
  · rw [compare_lt_iff_lt.mpr h, compare_lt_iff_lt.mpr (number_lt_number hd h)]
  · rw [compare_eq_iff_eq.mpr rfl, compare_eq_iff_eq.mpr rfl]
  · rw [compare_gt_iff_gt.mpr h, compare_gt_iff_gt.mpr (number_lt_number he h)]

/-- An interval from the origin to a working day is counted by the number of that day. -/
theorem countIn_onOrAfter (hd : c.isWorking d) (hlt : d < Day.last) :
    c.countIn (c.onOrAfter origin) d = (c.number origin d + 1).toNat := by
  rw [countIn_of_isWorking hd hlt, number]
  omega

end Calendar

/-! ## Standings -/

/-- What a timing tells without naming days: the number of its early start stands for its dates. -/
structure Standing where
  taskId : String
  isScheduled : Bool
  start : Option Int
  slack : Option Int
  isCritical : Bool

/-- Standings are put in order as timings are, by start and then by id. -/
def Standing.precedes (a b : Standing) : Bool :=
  ((compare a.start b.start).then (compare a.taskId b.taskId)).isLT

/-- The standing of a timing, with days numbered from an origin on. -/
def Timing.standing (c : Calendar) (origin : Day) (t : Timing) : Standing where
  taskId := t.taskId
  isScheduled := t.isScheduled
  start := t.earliestStart.map (c.number origin)
  slack := t.slack
  isCritical := t.isCritical

/-- Timings that start on working days are in the order of their standings. -/
theorem Timing.precedes_standing {c : Calendar} (origin : Day) {t u : Timing}
    (ht : ∀ d ∈ t.earliestStart, c.isWorking d) (hu : ∀ d ∈ u.earliestStart, c.isWorking d) :
    (t.standing c origin).precedes (u.standing c origin) = t.precedes u := by
  have hstart : compare (t.standing c origin).start (u.standing c origin).start =
      compare t.earliestStart u.earliestStart := by
    unfold standing
    cases hd : t.earliestStart with
    | none => cases u.earliestStart <;> rfl
    | some d =>
      cases he : u.earliestStart with
      | none => rfl
      | some e => exact Calendar.compare_number origin (ht d hd) (hu e he)
  rw [Standing.precedes, hstart]
  rfl

namespace Schedule

variable {s s' : Schedule} {c c' : Calendar} {origin origin' : Day}

/-- The critical path is that of the standings. -/
theorem criticalPath_eq_standings (origin : Day)
    (hworking : ∀ key t, s.get? key = some t → ∀ d ∈ t.earliestStart, c.isWorking d) :
    s.criticalPath = (ranked Standing.precedes (((s.entries.map fun entry =>
      (entry.1, entry.2.standing c origin)).map (·.2)).filter (·.isCritical))).map (·.taskId) := by
  have hmem : ∀ t ∈ (s.entries.map (·.2)).filter (·.isCritical),
      ∀ d ∈ t.earliestStart, c.isWorking d := by
    intro t ht
    obtain ⟨⟨key, _⟩, hentry, rfl⟩ := List.mem_map.mp (List.mem_of_mem_filter ht)
    exact hworking key _ (mem_entries.mp hentry)
  have hfilter : ((s.entries.map fun entry => (entry.1, entry.2.standing c origin)).map
      (·.2)).filter (·.isCritical) =
      ((s.entries.map (·.2)).filter (·.isCritical)).map (Timing.standing c origin) := by
    rw [List.map_map, List.filter_map, List.filter_map, List.map_map]
    rfl
  rw [hfilter, ranked_map fun _ _ => rfl, List.map_map, criticalPath, criticalIds,
    ranked_congr fun t ht u hu => Timing.precedes_standing origin (hmem t ht) (hmem u hu)]
  rfl

/-- **The critical path is read off the standings of the tasks.** -/
theorem criticalPath_eq_of_standing
    (hworking : ∀ key t, s.get? key = some t → ∀ d ∈ t.earliestStart, c.isWorking d)
    (hworking' : ∀ key t, s'.get? key = some t → ∀ d ∈ t.earliestStart, c'.isWorking d)
    (h : ∀ key, (s.get? key).map (Timing.standing c origin) =
      (s'.get? key).map (Timing.standing c' origin')) : s.criticalPath = s'.criticalPath := by
  rw [criticalPath_eq_standings origin hworking, criticalPath_eq_standings origin' hworking',
    map_entries_eq h]

/-- **Schedules on two calendars that agree on all but the days**: on the tasks with dates, on slack
and critical tasks, and on the number of working days from their origins to the finish. -/
structure Agrees (c : Calendar) (origin : Day) (s : Schedule) (c' : Calendar) (origin' : Day)
    (s' : Schedule) : Prop where
  isScheduled_eq : ∀ key, s.isScheduled key = s'.isScheduled key
  slack?_eq : ∀ key, s.slack? key = s'.slack? key
  isCritical_eq : ∀ key, s.isCritical key = s'.isCritical key
  criticalPath_eq : s.criticalPath = s'.criticalPath
  countIn_finish_eq : s.finish?.map (c.countIn (c.onOrAfter origin)) =
    s'.finish?.map (c'.countIn (c'.onOrAfter origin'))

theorem agrees_empty : Agrees c origin .empty c' origin' .empty :=
  ⟨fun _ => rfl, fun _ => rfl, fun _ => rfl, rfl, rfl⟩

section Readings

variable (c origin) (s : Schedule) (key : String)

theorem isScheduled_eq_any_standing : s.isScheduled key =
    ((s.get? key).map (Timing.standing c origin)).any (·.isScheduled) := by
  rw [Option.any_map]
  rfl

theorem slack?_eq_bind_standing : s.slack? key =
    ((s.get? key).map (Timing.standing c origin)).bind (·.slack) := by
  rw [Option.bind_map]
  rfl

theorem isCritical_eq_any_standing : s.isCritical key =
    ((s.get? key).map (Timing.standing c origin)).any (·.isCritical) := by
  rw [Option.any_map]
  rfl

end Readings

end Schedule

/-! ## The numbers of a plan -/

namespace Plan

variable {n : Nat} {p p' : Plan n} {dependencies : List Dependency} {shifts : Shifts n}
  {origin origin' finish finish' : Day} {s s' : Schedule} {i : Fin n} {link : Link n}

/-- The finish of a task has the number of its start and the days to the finish. -/
theorem number_finish {starts : Fin n → Day} (origin : Day)
    (hspan : p.calendar.IsSpan (p.task i).days (p.spanAt starts i)) :
    p.calendar.number origin (p.spanAt starts i).finish =
      p.calendar.number origin (starts i) + p.network.finishLead i := by
  have hrank := (hspan.rank_atEnd .finish).2
  rw [Span.atEnd_finish, spanAt_start, task] at hrank
  rw [Calendar.number, hrank, Calendar.number, Network.finishLead]
  omega

namespace IsRegular

variable (hr : p.IsRegular dependencies shifts finish)

include hr

/-- The bound of a link lies behind the start of its predecessor by what the link demands. -/
theorem number_earliest (origin : Day) (hlink : link ∈ p.network.links)
    (hp : p.IsPlanned link.predecessor) (hs : p.IsPlanned link.successor) :
    p.calendar.number origin (link.relation.earliestStart p.calendar
        (p.spanAt (p.earlyStart shifts) link.predecessor) (p.task link.successor).days) =
      p.calendar.number origin (p.earlyStart shifts link.predecessor) +
        p.network.startLag link := by
  have hrank := (Relation.isNumbered_earliestStart (hr.inner_earliest hlink hp hs)).rank_eq
  rw [((hr.isSpan_early hp).rank_atEnd _).2, spanAt_start] at hrank
  rw [Calendar.number, hrank, Calendar.number, Network.startLag, task, task]
  omega

/-- The limit of a link lies in front of the start of its successor by what the link demands. -/
theorem number_latest (origin : Day) (hlink : link ∈ p.network.links)
    (hp : p.IsPlanned link.predecessor) (hs : p.IsPlanned link.successor) :
    p.calendar.number origin (link.relation.latestStart p.calendar
        (p.spanAt (p.lateStart shifts finish) link.successor) (p.task link.predecessor).days) +
      p.network.startLag link =
        p.calendar.number origin (p.lateStart shifts finish link.successor) := by
  have hrank := (Relation.isNumbered_latestStart (hr.inner_latest hlink hp hs)).rank_eq
  rw [((hr.isSpan_late hs).rank_atEnd _).2, spanAt_start] at hrank
  rw [Calendar.number, hrank, Calendar.number, Network.startLag, task, task]
  omega

end IsRegular

/-- **A regular plan that only the start of the project anchors**, without shifts. -/
structure IsAnchoredAt (p : Plan n) (dependencies : List Dependency) (origin finish : Day) : Prop
    extends p.IsRegular dependencies (Shifts.none n) finish where
  projectStart_eq : p.projectStart = some origin
  anchor_eq : ∀ i, (p.task i).anchor = none

/-- The number of an early start. -/
def earlyNumber (p : Plan n) (origin : Day) (i : Fin n) : Int :=
  p.calendar.number origin (p.earlyStart (Shifts.none n) i)

/-- The number of a late start. -/
def lateNumber (p : Plan n) (origin finish : Day) (i : Fin n) : Int :=
  p.calendar.number origin (p.lateStart (Shifts.none n) finish i)

namespace IsAnchoredAt

variable (h : p.IsAnchoredAt dependencies origin finish)

include h

/-- A task without bounds starts with the project. -/
theorem earlyStart_of_startBounds_eq_nil (hi : p.IsPlanned i)
    (hnil : p.startBounds i (p.early (Shifts.none n)) = []) :
    p.earlyStart (Shifts.none n) i = p.calendar.onOrAfter origin := by
  rcases (early_cases h.isOrdered (h.isUnrecorded i) (h.early_get_eq hi)).2 with
    ⟨bound, hbound, -⟩ | ⟨-, anchor, hanchor, hstart⟩
  · rw [hnil] at hbound
    cases hbound
  · rw [h.anchor_eq, h.projectStart_eq] at hanchor
    cases hanchor
    rwa [get_none, shifted_zero] at hstart

/-- **Early starts have the early numbers of the network.** -/
theorem isEarlyNumbering : p.network.IsEarlyNumbering p.IsPlanned (p.earlyNumber origin) where
  le link hlink hp hs := by
    rw [earlyNumber, ← h.number_earliest origin hlink hp hs]
    exact Calendar.number_mono (h.earliest_le hlink hp hs)
  attained i hi := by
    rcases h.earlyStart_cases hi with ⟨link, hlink, rfl, hp, bound, rfl, hstart⟩ | hnil
    · right
      rw [get_none, shifted_zero, max_self] at hstart
      refine ⟨link, hlink, rfl, hp, ?_⟩
      rw [earlyNumber, ← h.number_earliest origin hlink hp hi, earlyNumber, hstart]
    · left
      rw [earlyNumber, h.earlyStart_of_startBounds_eq_nil hi hnil]
      refine ⟨Int.sub_self _, fun link hlink hs => ?_⟩
      rw [IsPlanned, startBounds_eq_nil_iff.mp hnil link hlink hs]
      exact Bool.false_ne_true

/-- The finish of the project has the last number of the network. -/
theorem isLastNumber : p.network.IsLastNumber p.IsPlanned (p.earlyNumber origin)
    (p.calendar.number origin finish) where
  le i hi := by
    rw [earlyNumber, ← number_finish origin (h.isSpan_early hi)]
    exact Calendar.number_mono (h.early_finish_le hi)
  attained := by
    obtain ⟨i, hi, hfinish⟩ := h.exists_early_finish_eq
    refine ⟨i, hi, ?_⟩
    rw [earlyNumber, ← number_finish origin (h.isSpan_early hi), hfinish]

/-- **Late starts have the late numbers of the network.** -/
theorem isLateNumbering : p.network.IsLateNumbering p.IsPlanned (p.calendar.number origin finish)
    (p.lateNumber origin finish) where
  le_last i hi := by
    rw [lateNumber, ← number_finish origin (h.isSpan_late hi)]
    exact Calendar.number_mono (h.late_finish_le hi)
  le link hlink hp hs := by
    rw [lateNumber, lateNumber, ← h.number_latest origin hlink hp hs]
    exact Int.add_le_add_right (Calendar.number_mono (h.le_latest hlink hp hs)) _
  attained i hi := by
    rcases h.lateStart_cases hi with hlast | ⟨link, hlink, rfl, hs, hstart⟩
    · left
      rw [lateNumber, ← number_finish origin (h.isSpan_late hi)]
      exact congrArg _ (((h.isSpan_late hi).finish_eq_iff h.isNumbered_finish
        (h.inner_last hi)).mpr hlast)
    · right
      refine ⟨link, hlink, rfl, hs, ?_⟩
      rw [lateNumber, lateNumber, ← h.number_latest origin hlink hi hs, hstart]

/-- The slack of a task is the way from its early to its late number. -/
theorem slack_eq_sub_number (hi : p.IsPlanned i) :
    (p.slack (p.spanAt (p.earlyStart (Shifts.none n)) i)
        (p.spanAt (p.lateStart (Shifts.none n) finish) i) : Int) =
      p.lateNumber origin finish i - p.earlyNumber origin i := by
  have hslack : (p.slack (p.spanAt (p.earlyStart (Shifts.none n)) i)
      (p.spanAt (p.lateStart (Shifts.none n) finish) i) : Int) =
        p.calendar.rank (p.lateStart (Shifts.none n) finish i) -
          p.calendar.rank (p.earlyStart (Shifts.none n) i) :=
    slack_eq_sub (h.isWorking_late hi) (h.lateStart_lt hi) (h.earlyStart_le_lateStart hi)
  unfold lateNumber earlyNumber Calendar.number
  omega

theorem isWorking_get? (hs : p.baseline = .ok s) {key : String} {t : Timing}
    (ht : s.get? key = some t) : ∀ d ∈ t.earliestStart, p.calendar.isWorking d := by
  obtain ⟨i, last, -, -, rfl⟩ := (get?_schedule_iff h.network_eq hs).mp ht
  intro d hd
  obtain ⟨own, hown, rfl⟩ := Option.map_eq_some_iff.mp hd
  exact (Plan.isSpan_early h.isOrdered h.staysInside (h.isUnrecorded i) hown).isWorking

end IsAnchoredAt

/-! ## The same network on two calendars -/

theorem task_eq_of_network_eq (hnet : p'.network = p.network) (i : Fin n) :
    p'.task i = p.task i := by
  rw [task, hnet, task]

/-- The standing of a task with dates is told by the number of its start and its slack. -/
theorem standing_timing_eq {t u : Task} {own span own' span' : Span} (hid : t.id = u.id)
    (hstart : p.calendar.number origin own.start = p'.calendar.number origin' own'.start)
    (hslack : p.slack own span = p'.slack own' span') :
    (p.timing t (some own) (some span)).standing p.calendar origin =
      (p'.timing u (some own') (some span')).standing p'.calendar origin' := by
  simp [timing, Timing.standing, Timing.isScheduled, hid, hstart, hslack]

section Calendars

variable (h : p.IsAnchoredAt dependencies origin finish)
  (h' : p'.IsAnchoredAt dependencies origin' finish') (hnet : p'.network = p.network)

include h h' hnet

theorem isPlanned_eq_of_network_eq : p'.IsPlanned = p.IsPlanned := by
  funext i
  refine propext (isSome_early_iff_of_network_eq h.isOrdered hnet ?_ _ _ i)
  rw [h.projectStart_eq, h'.projectStart_eq]
  rfl

theorem earlyNumber_eq (hi : p.IsPlanned i) :
    p.earlyNumber origin i = p'.earlyNumber origin' i := by
  have hnumbers := h'.isEarlyNumbering
  rw [hnet, isPlanned_eq_of_network_eq h h' hnet] at hnumbers
  exact h.isEarlyNumbering.unique hnumbers h.isOrdered i hi

theorem number_finish_eq :
    p.calendar.number origin finish = p'.calendar.number origin' finish' := by
  have hlast := h'.isLastNumber
  rw [hnet, isPlanned_eq_of_network_eq h h' hnet] at hlast
  exact h.isLastNumber.unique hlast fun i hi => earlyNumber_eq h h' hnet hi

theorem lateNumber_eq (hi : p.IsPlanned i) :
    p.lateNumber origin finish i = p'.lateNumber origin' finish' i := by
  have hnumbers := h'.isLateNumbering
  rw [hnet, isPlanned_eq_of_network_eq h h' hnet, ← number_finish_eq h h' hnet] at hnumbers
  exact h.isLateNumbering.unique hnumbers h.isOrdered i hi

/-- **The slack of a task does not depend on the calendar.** -/
theorem slack_eq (hi : p.IsPlanned i) :
    p.slack (p.spanAt (p.earlyStart (Shifts.none n)) i)
        (p.spanAt (p.lateStart (Shifts.none n) finish) i) =
      p'.slack (p'.spanAt (p'.earlyStart (Shifts.none n)) i)
        (p'.spanAt (p'.lateStart (Shifts.none n) finish') i) := by
  have hi' : p'.IsPlanned i := isPlanned_eq_of_network_eq h h' hnet ▸ hi
  apply Int.ofNat_inj.mp
  rw [h.slack_eq_sub_number hi, h'.slack_eq_sub_number hi', earlyNumber_eq h h' hnet hi,
    lateNumber_eq h h' hnet hi]

variable (hs : p.baseline = .ok s) (hs' : p'.baseline = .ok s')

include hs hs'

/-- **The standing of a task does not depend on the calendar.** -/
theorem standing_eq (key : String) : (s.get? key).map (Timing.standing p.calendar origin) =
    (s'.get? key).map (Timing.standing p'.calendar origin') := by
  have htask := task_eq_of_network_eq hnet
  by_cases hkey : ∃ i, (p.task i).id = key
  · obtain ⟨i, rfl⟩ := hkey
    obtain ⟨last, hlast, hget⟩ := get?_schedule h.network_eq hs i
    obtain ⟨last', hlast', hget'⟩ := get?_schedule h'.network_eq hs' i
    obtain rfl : last = finish := Option.some.inj (hlast.symm.trans h.lastFinish_eq)
    obtain rfl : last' = finish' := Option.some.inj (hlast'.symm.trans h'.lastFinish_eq)
    rw [htask] at hget'
    rw [hget, hget', Option.map_some, Option.map_some]
    refine congrArg some ?_
    by_cases hi : p.IsPlanned i
    · have hi' : p'.IsPlanned i := isPlanned_eq_of_network_eq h h' hnet ▸ hi
      rw [h.early_get_eq hi, h.late_get_eq hi, h'.early_get_eq hi', h'.late_get_eq hi']
      exact standing_timing_eq rfl (earlyNumber_eq h h' hnet hi) (slack_eq h h' hnet hi)
    · have hi' : ¬ p'.IsPlanned i := isPlanned_eq_of_network_eq h h' hnet ▸ hi
      rw [early_get_eq_none hi, late_get_eq_none h.isOrdered last hi, early_get_eq_none hi',
        late_get_eq_none h'.isOrdered last' hi']
      rfl
  · have hkey' : ¬ ∃ i, (p'.task i).id = key := by simpa only [htask] using hkey
    rw [get?_schedule_eq_none h.network_eq hs hkey, get?_schedule_eq_none h'.network_eq hs' hkey']
    rfl

/-- **The schedules of two plans that only a start of the project anchors agree.** -/
theorem agrees_schedule :
    Schedule.Agrees p.calendar origin s p'.calendar origin' s' := by
  have hstanding := standing_eq h h' hnet hs hs'
  refine ⟨fun key => ?_, fun key => ?_, fun key => ?_, ?_, ?_⟩
  · rw [s.isScheduled_eq_any_standing p.calendar origin, hstanding,
      ← s'.isScheduled_eq_any_standing]
  · rw [s.slack?_eq_bind_standing p.calendar origin, hstanding, ← s'.slack?_eq_bind_standing]
  · rw [s.isCritical_eq_any_standing p.calendar origin, hstanding, ← s'.isCritical_eq_any_standing]
  · exact Schedule.criticalPath_eq_of_standing (fun _ _ ht => h.isWorking_get? hs ht)
      (fun _ _ ht => h'.isWorking_get? hs' ht) hstanding
  · rw [h.finish?_schedule hs, h'.finish?_schedule hs', Option.map_some, Option.map_some,
      Calendar.countIn_onOrAfter h.isNumbered_finish.isWorking h.finish_lt,
      Calendar.countIn_onOrAfter h'.isNumbered_finish.isWorking h'.finish_lt,
      number_finish_eq h h' hnet]

end Calendars

/-- Plans of one network that lack dates are empty, or are refused for the same reason. -/
theorem baseline_of_lastFinish?_eq_none (hnet : p'.network = p.network)
    (hfinish : lastFinish? (p.early (Shifts.none n)) = none)
    (hfinish' : lastFinish? (p'.early (Shifts.none n)) = none) :
    (p.baseline = .ok .empty ∧ p'.baseline = .ok .empty) ∨
      ∃ e, p.baseline = .error e ∧ p'.baseline = .error e := by
  by_cases hn : n = 0
  · exact Or.inl ⟨schedule_eq_ok_iff.mpr (Or.inl ⟨hn, rfl⟩),
      schedule_eq_ok_iff.mpr (Or.inl ⟨hn, rfl⟩)⟩
  · refine Or.inr ⟨_, schedule_eq_error_iff.mpr ⟨hn, hfinish, rfl⟩,
      schedule_eq_error_iff.mpr ⟨hn, hfinish', ?_⟩⟩
    rw [leastId, hnet, leastId]

section Project

variable (hnetwork : Network.ofProject p.network.tasks dependencies = .ok p.network)
  (hnet : p'.network = p.network) (hstart : p.projectStart = some origin)
  (hstart' : p'.projectStart = some origin')

include hnetwork hnet hstart hstart'

/-- Plans of one network lack dates alike. -/
theorem lastFinish?_eq_none_iff_of_network_eq : lastFinish? (p'.early (Shifts.none n)) = none ↔
    lastFinish? (p.early (Shifts.none n)) = none := by
  rw [lastFinish?_eq_none_iff, lastFinish?_eq_none_iff]
  refine forall_congr' fun i => ?_
  rw [← Option.not_isSome_iff_eq_none, ← Option.not_isSome_iff_eq_none]
  refine not_congr (isSome_early_iff_of_network_eq (Network.isOrdered_of_ofProject hnetwork) hnet ?_
    _ _ i)
  rw [hstart, hstart']
  rfl

/-- Two plans of one network that only a start of the project anchors have schedules that agree,
or lack dates alike. -/
theorem baseline_cases (hanchor : ∀ i, (p.task i).anchor = none)
    (hrec : ∀ i, (p.task i).IsUnrecorded) (hin : p.StaysInside (Shifts.none n))
    (hin' : p'.StaysInside (Shifts.none n)) :
    (∃ s s', p.baseline = .ok s ∧ p'.baseline = .ok s' ∧
      Schedule.Agrees p.calendar origin s p'.calendar origin' s') ∨
    ∃ e, p.baseline = .error e ∧ p'.baseline = .error e := by
  -- the two plans have a last finish both or neither
  have hnone := lastFinish?_eq_none_iff_of_network_eq hnetwork hnet hstart hstart'
  cases hfinish : lastFinish? (p.early (Shifts.none n)) with
  | none =>
    rcases baseline_of_lastFinish?_eq_none hnet hfinish (hnone.mpr hfinish) with ⟨hs, hs'⟩ | herror
    · exact Or.inl ⟨.empty, .empty, hs, hs', Schedule.agrees_empty⟩
    · exact Or.inr herror
  | some finish =>
    cases hfinish' : lastFinish? (p'.early (Shifts.none n)) with
    | none =>
      rw [hnone.mp hfinish'] at hfinish
      cases hfinish
    | some finish' =>
      obtain ⟨s, hs⟩ := exists_schedule_of_lastFinish hfinish
      obtain ⟨s', hs'⟩ := exists_schedule_of_lastFinish hfinish'
      have htask := task_eq_of_network_eq hnet
      have h : p.IsAnchoredAt dependencies origin finish :=
        ⟨⟨hnetwork, hrec, hin, hfinish⟩, hstart, hanchor⟩
      have h' : p'.IsAnchoredAt dependencies origin' finish' :=
        ⟨⟨hnet ▸ hnetwork, fun i => htask i ▸ hrec i, hin', hfinish'⟩, hstart',
          fun i => htask i ▸ hanchor i⟩
      exact Or.inl ⟨s, s', hs, hs', agrees_schedule h h' hnet hs hs'⟩

end Project

end Plan

/-- **Slack and critical tasks do not depend on the calendar** of a project that only its start
anchors, nor on that start, as long as no walk stops at an end of the range: the two schedules
agree, or both are refused for the same reason. -/
theorem scheduleProject_on_calendars {n : Nat} {c c' : Calendar} {tasks : Vector Task n}
    {dependencies : List Dependency} {settings settings' : Settings} {origin origin' : Day}
    (hstart : settings.projectStart = some origin)
    (hstart' : settings'.projectStart = some origin')
    (hanchor : ∀ i, (tasks.get i).anchor = none) (hrec : ∀ i, (tasks.get i).IsUnrecorded)
    (hin : ∀ p, Plan.ofProject c tasks dependencies settings = .ok p →
      p.StaysInside (Shifts.none n))
    (hin' : ∀ p, Plan.ofProject c' tasks dependencies settings' = .ok p →
      p.StaysInside (Shifts.none n)) :
    (∃ s s', scheduleProject c tasks dependencies settings = .ok s ∧
      scheduleProject c' tasks dependencies settings' = .ok s' ∧
      Schedule.Agrees c origin s c' origin' s') ∨
    ∃ e, scheduleProject c tasks dependencies settings = .error e ∧
      scheduleProject c' tasks dependencies settings' = .error e := by
  cases hnet : Network.ofProject tasks dependencies with
  | error e =>
    exact Or.inr ⟨e, Plan.scheduleProject_eq_error hnet, Plan.scheduleProject_eq_error hnet⟩
  | ok net =>
    obtain rfl := Network.tasks_eq hnet
    rw [Plan.scheduleProject_eq_baseline hnet, Plan.scheduleProject_eq_baseline hnet]
    exact Plan.baseline_cases hnet rfl hstart hstart' hanchor hrec
      (hin _ (Plan.ofProject_of_network hnet)) (hin' _ (Plan.ofProject_of_network hnet))

namespace Sample

/-- Monday to Saturday, with Tuesday, 14 May 2024 off. -/
def sixDays : Calendar where
  weekdays := Calendar.weekdaysAmong [0, 1, 2, 3, 4, 5]
  hoursPerDay := 6.5
  holidays := [⟨96485149, by decide⟩]
  weekdays_ne_nil := by decide
  weekdays_ascending := (List.pairwise_lt_finRange 7).filter _
  holidays_ascending := List.pairwise_singleton _ _

/-- Sunday, 12 May 2024. -/
def sunday : Day := ⟨96485147, by decide⟩

def sixDaysPlan : Plan 3 := ⟨sixDays, network, some sunday⟩

set_option maxRecDepth 4000 in
theorem ofProject_sixDays_eq :
    Plan.ofProject sixDays tasks dependencies { projectStart := some sunday } =
      .ok sixDaysPlan := by rfl

theorem staysInside_sixDays : sixDaysPlan.StaysInside (Shifts.none 3) := by decide

/-- From Sunday on, with a day off, the draft takes as long as from Monday on without one. -/
theorem scheduleProject_on_calendars_sample :
    ∃ s s', scheduleProject .standard tasks dependencies settings = .ok s ∧
      scheduleProject sixDays tasks dependencies { projectStart := some sunday } = .ok s' ∧
      Schedule.Agrees .standard monday s sixDays sunday s' := by
  have hin : ∀ p, Plan.ofProject .standard tasks dependencies settings = .ok p →
      p.StaysInside (Shifts.none 3) := by
    intro p hp
    rw [ofProject_eq] at hp
    cases hp
    exact staysInside
  have hin' : ∀ p, Plan.ofProject sixDays tasks dependencies { projectStart := some sunday } =
      .ok p → p.StaysInside (Shifts.none 3) := by
    intro p hp
    rw [ofProject_sixDays_eq] at hp
    cases hp
    exact staysInside_sixDays
  refine (scheduleProject_on_calendars rfl rfl (by decide) isUnrecorded hin hin').resolve_right ?_
  rintro ⟨e, he, -⟩
  rw [Plan.scheduleProject_eq_ok_iff.mpr ⟨plan, ofProject_eq, baseline_eq⟩] at he
  cases he

end Sample

end Workplan
