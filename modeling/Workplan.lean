import Workplan.Description
import Workplan.Session
import Workplan.Proofs.Plan.Critical
import Workplan.Proofs.Plan.Earliest
import Workplan.Proofs.Plan.End
import Workplan.Proofs.Plan.LateFinish
import Workplan.Proofs.Plan.Reorder
import Workplan.Proofs.Shift
import Workplan.Proofs.Leveling.Failure
import Workplan.Proofs.Leveling.Outcome
import Workplan.Proofs.Overload.PerDay
import Workplan.Proofs.Leveling.Budget
import Workplan.Proofs.Plan.Anchored
import Workplan.Proofs.Plan.Delay
import Workplan.Proofs.Network.Numbering
import Workplan.Proofs.Plan.Standing
import Workplan.Proofs.Plan.Upstream
import Workplan.Proofs.Plan.Answer
import Workplan.Proofs.Shift.Effect
import Workplan.Proofs.ResultOrder
import Workplan.Proofs.Calendar.Exact
import Workplan.Proofs.Network.ClosingWalk
import Workplan.Proofs.Network.Greedy
import Workplan.Proofs.Leveling.Choice
import Workplan.Proofs.Calendar.Laws
import Workplan.Proofs.Plan.Duration
import Workplan.Proofs.Calendar.Reach
import Workplan.Proofs.Calendar.Stepping
import Workplan.Proofs.Plan.Recorded
import Workplan.Proofs.Network.Tables
import Workplan.Proofs.Shift.Answer
