import HostAlert.Config
import HostAlert.Text.Blank
import HostAlert.Text.Numeral

/-!
# Submitted settings

A `Submission` is a set of settings sent through the control interface. `validate` accepts it
exactly when all rules hold and otherwise names the first rule that is broken.
-/

namespace HostAlert

/-- Settings as submitted; the durations are in milliseconds and may be out of range. -/
structure Submission where
  enabled : Bool
  botToken : String
  chatId : String
  cpuThreshold : Float
  memoryThreshold : Float
  diskThreshold : Float
  checkInterval : Int64
  cooldown : Int64
  customMessage : String

namespace Submission

def empty : Submission := ⟨false, "", "", 0, 0, 0, 0, 0, ""⟩

/-- The rule that a submission breaks. -/
inductive Refusal
  | intervalOutOfRange
  | cooldownOutOfRange
  | thresholdOutOfRange (m : Metric)
  | missingCredentials
  deriving DecidableEq

def minCheckInterval : Span := .ofSeconds 60

def maxCheckInterval : Span := .ofSeconds 86400

def minCooldown : Span := .ofSeconds 60

def maxCooldown : Span := .ofSeconds 86400

/-- The text of a range of durations in seconds. -/
def rangeText (low high : Span) : String :=
  String.ofList (Text.decimal low.seconds) ++ "s and " ++
    String.ofList (Text.decimal high.seconds) ++ "s"

def Refusal.message : Refusal → String
  | intervalOutOfRange =>
    "check_interval must be between " ++ rangeText minCheckInterval maxCheckInterval
  | cooldownOutOfRange => "cooldown must be between " ++ rangeText minCooldown maxCooldown
  | thresholdOutOfRange m => m.name ++ " threshold must be between 0 and 100"
  | missingCredentials => "bot_token and chat_id are required when notifications are enabled"

/-- The span of so many milliseconds, if it lies in the range. -/
def spanWithin (millis : Int) (low high : Span) : Option Span :=
  let d := Span.ofMillis millis.toNat
  if 0 ≤ millis ∧ low ≤ d ∧ d ≤ high then some d else none

def threshold (p : Submission) : Metric → Float
  | .cpu => p.cpuThreshold
  | .memory => p.memoryThreshold
  | .disk => p.diskThreshold

def isPercentage (x : Float) : Bool :=
  0 ≤ x && x ≤ 100

/-- The settings as they are stored when every rule holds. -/
def accepted (p : Submission) (checkInterval cooldown : Span) : TelegramConfig :=
  { enabled := p.enabled
    botToken := Text.trimmed p.botToken
    chatId := Text.trimmed p.chatId
    cpuThreshold := p.cpuThreshold
    memoryThreshold := p.memoryThreshold
    diskThreshold := p.diskThreshold
    checkInterval := checkInterval
    cooldown := cooldown
    customMessage := Text.trimmed p.customMessage }

/-- The settings of a submission, or the first rule that it breaks. -/
def validate (p : Submission) : Except Refusal TelegramConfig :=
  match spanWithin p.checkInterval.toInt minCheckInterval maxCheckInterval with
  | none => .error .intervalOutOfRange
  | some checkInterval =>
    match spanWithin p.cooldown.toInt minCooldown maxCooldown with
    | none => .error .cooldownOutOfRange
    | some cooldown =>
      match Metric.all.find? fun m => !isPercentage (p.threshold m) with
      | some m => .error (.thresholdOutOfRange m)
      | none =>
        let config := p.accepted checkInterval cooldown
        if config.enabled && !config.hasCredentials then .error .missingCredentials
        else .ok config.normalize

end Submission

end HostAlert
