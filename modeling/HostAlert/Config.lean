import HostAlert.Metric
import HostAlert.Time.Span

/-!
# Notification settings

`TelegramConfig` says whether and where alerts are delivered, and when. `normalize` replaces
durations of zero.
-/

namespace HostAlert

structure TelegramConfig where
  enabled : Bool
  botToken : String
  chatId : String
  cpuThreshold : Float
  memoryThreshold : Float
  diskThreshold : Float
  checkInterval : Span
  cooldown : Span
  customMessage : String
  deriving DecidableEq

namespace TelegramConfig

def defaultCheckInterval : Span := .ofSeconds 60

def defaultCooldown : Span := .ofSeconds 60

/-- Notifications are off and nothing is set. -/
def initial : TelegramConfig :=
  ⟨false, "", "", 90, 90, 90, defaultCheckInterval, defaultCooldown, ""⟩

/-- The span, or `fallback` when it is zero. -/
def orDefault (d fallback : Span) : Span :=
  if d.isZero then fallback else d

/-- The settings with their default in the place of each duration of zero. -/
def normalize (c : TelegramConfig) : TelegramConfig :=
  { c with
    checkInterval := orDefault c.checkInterval defaultCheckInterval
    cooldown := orDefault c.cooldown defaultCooldown }

/-- Whether a bot and a chat are named. -/
def hasCredentials (c : TelegramConfig) : Bool :=
  !c.botToken.isEmpty && !c.chatId.isEmpty

/-- Whether alerts and filter updates may be delivered. -/
def isDeliverable (c : TelegramConfig) : Bool :=
  c.enabled && c.hasCredentials

/-- The threshold of a metric, in percent. -/
def threshold (c : TelegramConfig) : Metric → Float
  | .cpu => c.cpuThreshold
  | .memory => c.memoryThreshold
  | .disk => c.diskThreshold

theorem orDefault_ne_zero {d fallback : Span} (h : fallback.isZero = false) :
    (orDefault d fallback).isZero = false := by
  unfold orDefault
  split <;> simp_all

theorem normalize_durations (c : TelegramConfig) :
    c.normalize.checkInterval.isZero = false ∧ c.normalize.cooldown.isZero = false :=
  ⟨orDefault_ne_zero (by decide), orDefault_ne_zero (by decide)⟩

end TelegramConfig

end HostAlert
