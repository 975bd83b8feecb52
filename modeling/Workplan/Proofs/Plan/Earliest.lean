import Workplan.Proofs.Plan.Critical
import Workplan.Proofs.Saturation

/-!
# Earliest dates

The early dates of a schedule keep every dependency and are the least that do so. Neither needs
the walks of the computation to stay inside the range of days, and days may be recorded: only a
recorded end, which stands whatever its predecessors say, is excepted.

## Main definitions

* `IsAdmissible`: starts that keep every dependency, the recorded starts and the anchors

## Main results

* `early_dates_hold`: early dates keep every dependency, under any shifts
* `early_start_least`: no admissible starts are ahead of the early ones
-/

namespace Workplan

variable {n : Nat}

/-- Starts of the tasks that a schedule has dates for: working days that come no earlier than
the recorded starts and the anchors of first tasks, and that keep every dependency. -/
structure IsAdmissible (c : Calendar) (tasks : Vector Task n) (dependencies : List Dependency)
    (projectStart : Option Day) (s : Schedule) (starts : Fin n → Day) : Prop where
  isWorking : ∀ i, s.isScheduled (tasks.get i).id → c.isWorking (starts i)
  began_le : ∀ i, s.isScheduled (tasks.get i).id → ∀ began ∈ (tasks.get i).began, began ≤ starts i
  anchor_le : ∀ i, s.isScheduled (tasks.get i).id → s.IsFirst tasks dependencies i →
    ∀ anchor ∈ ((tasks.get i).anchor <|> projectStart), anchor ≤ starts i
  holds : ∀ d ∈ dependencies, ∀ i j, d.Joins tasks i j → s.isScheduled (tasks.get i).id →
    s.isScheduled (tasks.get j).id →
      d.relation.Holds c (c.spanFrom (starts i) (tasks.get i).days)
        (c.spanFrom (starts j) (tasks.get j).days)

namespace Plan

variable {p : Plan n} {tasks : Vector Task n} {dependencies : List Dependency}
  {shifts : Shifts n} {s : Schedule} {starts : Fin n → Day}

/-! ## Early dates keep every dependency -/

/-- An early span without a recorded end keeps every link from a planned predecessor. -/
theorem early_holds (h : p.network.IsOrdered) {link : Link n} (hlink : link ∈ p.network.links)
    (hend : (p.task link.successor).ended = none) {a own : Span}
    (ha : (p.early shifts).get link.predecessor = some a)
    (hown : (p.early shifts).get link.successor = some own) :
    link.relation.Holds p.calendar a own := by
  have hspan := (recordedSpan?_cases hend (early_eq_recordedSpan? h hown)).1
  rw [hspan]
  exact Relation.holds_of_earliestStart_le (earliestStart_le h hlink hend ha hown)

/-- **Early dates keep every dependency** on a successor without a recorded end, whatever the
shifts, the recorded days of the others and the days at which walks stop. -/
theorem early_dates_hold {c : Calendar} {settings : Settings} {d : Dependency} {i j : Fin n}
    {a b : Span} (hp : ofProject c tasks dependencies settings = .ok p)
    (hs : p.schedule shifts = .ok s) (hd : d ∈ dependencies) (hjoins : d.Joins tasks i j)
    (ha : s.early? (tasks.get i).id = some a) (hb : s.early? (tasks.get j).id = some b)
    (hend : (tasks.get j).ended = none) : d.relation.Holds c a b := by
  obtain ⟨rfl, hnet, -⟩ := ofProject_eq_ok hp
  obtain rfl := Network.tasks_eq hnet
  have hlink : (⟨i, j, d.relation⟩ : Link n) ∈ p.network.links :=
    (Network.mem_links_iff hnet).mpr ⟨d, hd, hjoins, rfl⟩
  exact early_holds (Network.isOrdered_of_ofProject hnet) hlink hend
    ((early?_schedule hnet hs i).symm.trans ha) ((early?_schedule hnet hs j).symm.trans hb)

end Plan

namespace Sample

/-- Saturday, 11 May 2024. -/
def saturday : Day := ⟨96485146, by decide⟩

/-- The draft is recorded to have begun on a day that is not worked, and the release takes two
days. -/
def begun : Vector Task 3 :=
  #v[{ id := "draft", duration := some 3, began := some saturday },
    { id := "review", duration := some 1 }, { id := "release", duration := some 2 }]

def begunPlan : Plan 3 := ⟨.standard, networkOf begun, some monday⟩

set_option maxRecDepth 4000 in
theorem ofProject_begun_eq :
    Plan.ofProject .standard begun dependencies settings = .ok begunPlan := by rfl

def begunSchedule (shifts : Shifts 3) : Schedule :=
  (begunPlan.schedule shifts).toOption.getD .empty

/-- The release is shifted ahead, but not past what the draft leaves it. -/
theorem early_dates_hold_sample : ∃ a b,
    (begunSchedule #v[0, 4, -3]).early? "draft" = some a ∧
      (begunSchedule #v[0, 4, -3]).early? "release" = some b ∧
      ({ lag := 1 } : Relation).Holds .standard a b := by
  have hs : begunPlan.schedule #v[0, 4, -3] = .ok (begunSchedule #v[0, 4, -3]) := by rfl
  have hdraft : (begunSchedule #v[0, 4, -3]).early? (begun.get 0).id =
    some ⟨saturday, Calendar.standard.offset monday 7⟩ := by decide
  have hrelease : (begunSchedule #v[0, 4, -3]).early? (begun.get 2).id =
    some ⟨Calendar.standard.offset monday 8, Calendar.standard.offset monday 9⟩ := by decide
  have hd : (⟨"draft", "release", { lag := 1 }⟩ : Dependency) ∈ dependencies := by decide
  have hholds := Plan.early_dates_hold ofProject_begun_eq hs hd (by decide) hdraft hrelease
    (by decide)
  exact ⟨_, _, hdraft, hrelease, hholds⟩

end Sample

namespace Plan

variable {p : Plan n} {tasks : Vector Task n} {dependencies : List Dependency}
  {s : Schedule} {starts : Fin n → Day}

/-! ## No admissible start is earlier -/

section Least

variable (hnet : Network.ofProject p.network.tasks dependencies = .ok p.network)
  (hs : p.baseline = .ok s)
  (hadm : IsAdmissible p.calendar p.network.tasks dependencies p.projectStart s starts)

include hnet hs hadm

/-- A planned start comes no later than an admissible one that starts no predecessor too
early. The admissible start holds the relation to each predecessor where that stands, and a
predecessor that stands earlier leaves an earlier bound. -/
theorem plannedStart?_le {i : Fin n} (hi : s.isScheduled (p.task i).id) {start : Day}
    (hpre : ∀ link ∈ p.network.links, link.successor = i → ∀ a,
      (p.early (Shifts.none n)).get link.predecessor = some a →
        a.start ≤ starts link.predecessor ∧ a.finish ≤ p.calendar.finishFrom
          (starts link.predecessor) (p.task link.predecessor).days)
    (hstart : p.plannedStart? (Shifts.none n) i (p.early (Shifts.none n)) = some start) :
    start ≤ starts i := by
  have hworking := hadm.isWorking i hi
  rcases plannedStart?_cases hstart with ⟨bound, hbound, -, rfl⟩ | ⟨hnil, anchor, hanchor, rfl⟩
  · obtain ⟨link, hlink, rfl, a, ha, rfl⟩ := mem_startBounds.mp hbound
    obtain ⟨d, hd, hjoins, hrelation⟩ := (Network.mem_links_iff hnet).mp hlink
    have hscheduled : s.isScheduled (p.task link.predecessor).id :=
      (s.isScheduled_iff _).mpr ⟨a, (early?_schedule hnet hs _).trans ha⟩
    have hholds := hadm.holds d hd _ _ hjoins hscheduled hi
    rw [hrelation] at hholds
    obtain ⟨hle, hle'⟩ := hpre link hlink rfl a ha
    rw [get_none, shifted_zero, max_self]
    exact (Relation.holds_spanFrom_iff hworking).mp (hholds.of_le hle hle')
  · rw [get_none, shifted_zero]
    have hfirst := (isFirst_iff_startBounds_eq_nil hnet hs).mpr hnil
    have hle := hadm.anchor_le i hi hfirst anchor hanchor
    exact Calendar.dayAt_le hworking (Int.ofNat_le.mpr (Calendar.rank_mono hle))

/-- **Admissible starts and their finishes are no earlier than the early ones**, if no ends are
recorded. The bounds of a task come from the early spans of its predecessors, of which this is known
along the order. -/
theorem early_le_admissible (hend : ∀ i, (p.task i).ended = none) (i : Fin n) :
    ∀ own, (p.early (Shifts.none n)).get i = some own →
      own.start ≤ starts i ∧ own.finish ≤ p.calendar.finishFrom (starts i) (p.task i).days := by
  have h := Network.isOrdered_of_ofProject hnet
  induction i using h.induction_along with
  | step i ih =>
    intro own hown
    have hi : s.isScheduled (p.task i).id :=
      (s.isScheduled_iff _).mpr ⟨own, (early?_schedule hnet hs i).trans hown⟩
    obtain ⟨hspan, hchoice, -⟩ := recordedSpan?_cases (hend i) (early_eq_recordedSpan? h hown)
    have hstart : own.start ≤ starts i := by
      rcases hchoice with hbegan | hplanned
      · exact hadm.began_le i hi _ hbegan
      · exact plannedStart?_le hnet hs hadm hi ih hplanned
    refine ⟨hstart, ?_⟩
    rw [hspan]
    exact Calendar.finishFrom_mono hstart

end Least

/-- **No admissible starts are ahead of the early ones**, none of them finish ahead of the early
finishes, and the last of them does not finish ahead of the project. -/
theorem early_start_least {c : Calendar} {settings : Settings}
    (hs : scheduleProject c tasks dependencies settings = .ok s)
    (hend : ∀ i, (tasks.get i).ended = none)
    (hadm : IsAdmissible c tasks dependencies settings.projectStart s starts) :
    (∀ i early, s.early? (tasks.get i).id = some early →
      early.start ≤ starts i ∧ early.finish ≤ c.finishFrom (starts i) (tasks.get i).days) ∧
    ∀ finish, s.finish? = some finish → ∃ i, s.isScheduled (tasks.get i).id ∧
      finish ≤ c.finishFrom (starts i) (tasks.get i).days := by
  obtain ⟨p, hp, hbase⟩ := scheduleProject_eq_ok_iff.mp hs
  obtain ⟨rfl, hnet, hproject⟩ := ofProject_eq_ok hp
  obtain rfl := Network.tasks_eq hnet
  rw [← hproject] at hadm
  have hleast := early_le_admissible hnet hbase hadm hend
  refine ⟨?_, ?_⟩
  · intro i early hearly
    exact hleast i early ((early?_schedule hnet hbase i).symm.trans hearly)
  · intro finish hfinish
    rw [finish?_schedule hnet hbase] at hfinish
    obtain ⟨⟨i, own, hown, rfl⟩, -⟩ := lastFinish?_eq_some_iff.mp hfinish
    have hi : s.isScheduled (p.task i).id :=
      (s.isScheduled_iff _).mpr ⟨own, (early?_schedule hnet hbase i).trans hown⟩
    exact ⟨i, hi, (hleast i own hown).2⟩

end Plan

namespace Sample

/-- The draft begins on the second working day after the recorded one, and the release a day
later than it has to. -/
theorem early_start_least_sample :
    ∃ s starts, scheduleProject .standard begun dependencies settings = .ok s ∧
      IsAdmissible .standard begun dependencies settings.projectStart s starts ∧
      (∀ i early, s.early? (begun.get i).id = some early → early.start ≤ starts i ∧
        early.finish ≤ Calendar.standard.finishFrom (starts i) (begun.get i).days) ∧
      ∀ finish, s.finish? = some finish → ∃ i, s.isScheduled (begun.get i).id ∧
        finish ≤ Calendar.standard.finishFrom (starts i) (begun.get i).days := by
  have hs : scheduleProject .standard begun dependencies settings =
      .ok (begunSchedule (Shifts.none 3)) :=
    Plan.scheduleProject_eq_ok_iff.mpr ⟨begunPlan, ofProject_begun_eq, by rfl⟩
  let starts : Fin 3 → Day := Vector.get #v[Calendar.standard.offset monday 6, monday,
    Calendar.standard.offset monday 10]
  have hadm : IsAdmissible .standard begun dependencies settings.projectStart
      (begunSchedule (Shifts.none 3)) starts :=
    ⟨by decide, by decide, by decide, by decide⟩
  exact ⟨_, starts, hs, hadm, Plan.early_start_least hs (by decide) hadm⟩

end Sample

end Workplan
