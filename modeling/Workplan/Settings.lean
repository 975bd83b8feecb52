import Workplan.Error

/-!
# Settings

What a user sets for planning and for leveling, beside the project itself.

## Main definitions

* `Settings`, `LevelingSettings`
* `checkThreshold`: the one setting that can be refused
-/

namespace Workplan

/-- Settings of a plan. -/
structure Settings where
  /-- The anchor of tasks that have neither one of their own nor a planned predecessor. -/
  projectStart : Option Day := none
  /-- How much is told about the work, from 0 (nothing). -/
  verbosity : Nat := 0
  deriving DecidableEq

/-- Settings of a leveling run and of the plans it makes. -/
structure LevelingSettings extends Settings where
  /-- The percentage that a resource may carry on a day. -/
  threshold : Float := 100.0
  /-- The number of moves after which a run ends. -/
  maxMoves : Nat := 60

/-- Refuses a threshold that is not a positive finite number. -/
def checkThreshold (threshold : Float) : Except Error Unit :=
  if !threshold.isFinite || threshold ≤ 0.0 then .error (.thresholdNotPositive threshold)
  else .ok ()

end Workplan
