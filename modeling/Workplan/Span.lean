import Workplan.Calendar.Walk
import Workplan.Project

/-!
# Spans

The first and last day of a task, and what a relation to another task allows. A relation
with lag 0 lines two ends up on the same day: a task may start on the day its predecessor
finishes.

## Main definitions

* `Span`, `Span.atEnd`
* `Calendar.finishFrom`, `Calendar.startFor`: from one end of a span to the other
* `Relation.lead`: the lag of a relation, taken back
* `Relation.earliestStart`, `Relation.latestStart`: the bound that the task at the other end
  sets
-/

namespace Workplan

/-- The first and the last day of a task. -/
structure Span where
  start : Day
  finish : Day
  deriving DecidableEq

namespace Span

/-- The day of one of the two ends. -/
def atEnd (s : Span) : Endpoint → Day
  | .start => s.start
  | .finish => s.finish

@[simp] theorem atEnd_start (s : Span) : s.atEnd .start = s.start := rfl

@[simp] theorem atEnd_finish (s : Span) : s.atEnd .finish = s.finish := rfl

end Span

namespace Calendar

variable (c : Calendar)

/-- The last of `days` working days from `start` on; no days end where they start. -/
def finishFrom (start : Day) (days : Nat) : Day := c.advance start days

/-- The first of `days` working days that end on `finish`; no days start where they end. -/
def startFor (finish : Day) (days : Nat) : Day := c.advance finish (-((days - 1 : Nat) : Int))

@[simp] theorem finishFrom_zero (start : Day) : c.finishFrom start 0 = start := rfl

@[simp] theorem startFor_zero (finish : Day) : c.startFor finish 0 = finish := rfl

@[simp] theorem startFor_one (finish : Day) : c.startFor finish 1 = finish := rfl

end Calendar

namespace Relation

variable (r : Relation) (c : Calendar)

/-- The earliest start that a predecessor's span leaves to a successor of `days` days. -/
def earliestStart (predecessor : Span) (days : Nat) : Day :=
  let bound := c.offset (predecessor.atEnd r.source) r.lag
  match r.target with
  | .start => bound
  | .finish => c.startFor bound days

/-- The least lag. -/
def leastLag : Int := -0x8000000000000000

/-- The lag on the way back from the successor to the predecessor. Lags are numbers of 64 bits, of
which the least has no opposite among them and is its own negative. -/
def lead : Int := if r.lag = leastLag then leastLag else -r.lag

/-- The latest start that a successor's span leaves to a predecessor of `days` days. -/
def latestStart (successor : Span) (days : Nat) : Day :=
  let bound := c.offset (successor.atEnd r.target) r.lead
  match r.source with
  | .start => bound
  | .finish => c.startFor bound days

end Relation

end Workplan
