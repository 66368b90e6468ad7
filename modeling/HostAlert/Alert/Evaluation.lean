import HostAlert.Time.Span

/-!
# Evaluation of one reading

`evaluate` compares a reading with its threshold. A reading at or above the threshold starts an
alert unless one is active or the cooldown has not passed. An active alert ends only once the
reading falls below `resetFactor` of the threshold; in between it is kept. A threshold or reading
that is not positive disables the metric.
-/

namespace HostAlert

/-- The part of the threshold below which a reading ends an active alert. -/
def resetFactor : Float := 0.9

inductive Evaluation
  /-- The metric is not watched, or could not be read. -/
  | disabled
  /-- Below the threshold, and no alert is active. -/
  | ok
  /-- The alert stays as it is. -/
  | exceeding
  /-- An alert begins. -/
  | startsToExceed
  /-- An active alert ends. -/
  | backToOk
  deriving DecidableEq

namespace Evaluation

/-- Whether the cooldown is over; `none` is a metric that was never alerted. -/
def cooledDown (since : Option Span) (cooldown : Span) : Bool :=
  match since with
  | none => true
  | some elapsed => decide (cooldown ≤ elapsed)

/-- Compares a reading with a threshold. `since` is the time since the last alert. -/
def evaluate (value threshold : Float) (active : Bool) (since : Option Span) (cooldown : Span) :
    Evaluation :=
  if threshold ≤ 0 || value ≤ 0 then disabled
  else if threshold ≤ value then
    if !active && cooledDown since cooldown then startsToExceed else exceeding
  else if !active then ok
  else if value < threshold * resetFactor then backToOk
  else exceeding

/-- Whether the evaluation drops the active flag of its metric. -/
def clears : Evaluation → Bool
  | disabled | backToOk => true
  | ok | exceeding | startsToExceed => false

end Evaluation

end HostAlert
