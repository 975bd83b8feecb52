import Workplan.Network
import Workplan.Settings
import Workplan.Span
import Workplan.Propagation

/-!
# Plans

A plan lays the tasks of a network out on a calendar. Early dates are propagated along the
network's order and late dates against it.

A shift moves a task by working days from where it would start on its own, but never ahead
of what its predecessors leave it.

## Main definitions

* `Plan`, `Plan.ofProject`
* `Plan.early`: the earliest span of each task that can be planned
* `Plan.late`: the latest span that keeps the last early finish
-/

namespace Workplan

/-- A network on a calendar, with the anchor of the project. -/
structure Plan (n : Nat) where
  calendar : Calendar
  network : Network n
  projectStart : Option Day

/-- Working days by which each task is shifted. -/
abbrev Shifts (n : Nat) := Vector Int n

/-- No shifts. -/
def Shifts.none (n : Nat) : Shifts n := Vector.replicate n 0

/-- The last day of some spans. -/
def lastFinish? {n : Nat} (spans : Vector (Option Span) n) : Option Day :=
  (spans.toList.filterMap fun span => span.map (·.finish)).max?

namespace Plan

variable {n : Nat} (p : Plan n)

/-- The task at a position. -/
def task (i : Fin n) : Task := p.network.tasks.get i

/-! ## Early dates -/

/-- A start moved by a shift. -/
def shifted (start : Day) (shift : Int) : Day :=
  if shift = 0 then start else p.calendar.offset start shift

/-- The earliest starts that the planned predecessors of a task leave it, one by one. -/
def startBounds (i : Fin n) (early : Vector (Option Span) n) : List Day :=
  (p.network.predecessors i).filterMap fun (j, relation) =>
    (early.get j).map fun span => relation.earliestStart p.calendar span (p.task i).days

/-- The start of a task as planned: the latest of its bounds; without any, the first working
day from its anchor or else the project's. -/
def plannedStart? (shifts : Shifts n) (i : Fin n) (early : Vector (Option Span) n) :
    Option Day :=
  match (p.startBounds i early).max? with
  -- a shift to an earlier day stops at the bound
  | some bound => some (max (p.shifted bound (shifts.get i)) bound)
  | none =>
    ((p.task i).anchor <|> p.projectStart).map fun anchor =>
      p.shifted (p.calendar.onOrAfter anchor) (shifts.get i)

/-- The span of a task with its recorded days put in. A recorded end stands, and so does a
recorded start with it; a recorded start alone only delays the planned one. -/
def recordedSpan? (t : Task) (planned : Option Day) : Option Span :=
  match t.ended with
  | some finish => some ⟨t.began.getD (p.calendar.startFor finish t.days), finish⟩
  | none =>
    let start? := match t.began, planned with
      | some began, some planned => some (max began planned)
      | began, planned => began <|> planned
    start?.map fun start => ⟨start, p.calendar.finishFrom start t.days⟩

/-- The earliest span of a task, given those of its predecessors. -/
def earlySpan? (shifts : Shifts n) (i : Fin n) (early : Vector (Option Span) n) :
    Option Span :=
  if (p.task i).duration.isNone then none
  else p.recordedSpan? (p.task i) (p.plannedStart? shifts i early)

/-- The earliest spans of the tasks; a task without a duration or without anything to plan
it from has none. -/
def early (shifts : Shifts n) : Vector (Option Span) n :=
  propagate p.network.order (p.earlySpan? shifts)

/-! ## Late dates -/

/-- The working days that a task keeps in its late span: those of its early span, as
recorded days may change its length, but none for a milestone. -/
def keptDays (t : Task) (early : Span) : Nat :=
  if t.days = 0 then 0 else p.calendar.countIn early.start early.finish

/-- The latest starts that the planned successors of a task leave it, one by one. -/
def startLimits (i : Fin n) (days : Nat) (late : Vector (Option Span) n) : List Day :=
  (p.network.successors i).filterMap fun (j, relation) =>
    (late.get j).map fun span => relation.latestStart p.calendar span days

/-- The latest span of a planned task, given those of its successors: it ends by the last
working day of the project and keeps every limit. -/
def lateSpan? (early : Vector (Option Span) n) (finish : Day) (i : Fin n)
    (late : Vector (Option Span) n) : Option Span :=
  (early.get i).map fun own =>
    let days := p.keptDays (p.task i) own
    let last := p.calendar.startFor (p.calendar.onOrBefore finish) days
    let start := (p.startLimits i days late).foldl min last
    ⟨start, p.calendar.finishFrom start days⟩

/-- The latest spans of the tasks that have an early one. -/
def late (early : Vector (Option Span) n) (finish : Day) : Vector (Option Span) n :=
  propagate p.network.order.reverse (p.lateSpan? early finish)

end Plan

end Workplan
