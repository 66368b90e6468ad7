import HostAlert.Config.Submission
import HostAlert.Json.Record
import HostAlert.Json.Value

/-!
# Documents of settings

The JSON forms of stored and submitted settings. Durations are whole milliseconds; a stored one is
written as an unsigned number of 64 bits, and a negative one is read as zero. Every member may be
missing.
-/

namespace HostAlert

namespace TelegramConfig

open Json

/-- The largest number of milliseconds that is written. -/
def maxMillis : Nat := UInt64.size - 1

/-- A duration in milliseconds. -/
def durationValue (d : Span) : Value :=
  .whole (min d.millis maxMillis)

def duration : Reader Span := fun s =>
  (int64 s).map fun (n, rest) => (Span.ofMillis n.toInt.toNat, rest)

def members : List (Member TelegramConfig) :=
  [ .of "enabled" .kept bool fun c v => { c with enabled := v },
    .of "bot_token" .kept string fun c v => { c with botToken := v },
    .of "chat_id" .kept string fun c v => { c with chatId := v },
    .of "cpu_threshold" .kept double fun c v => { c with cpuThreshold := v },
    .of "memory_threshold" .kept double fun c v => { c with memoryThreshold := v },
    .of "disk_threshold" .kept double fun c v => { c with diskThreshold := v },
    .of "check_interval" .kept duration fun c v => { c with checkInterval := v },
    .of "cooldown" .kept duration fun c v => { c with cooldown := v },
    .of "custom_message" .kept string fun c v => { c with customMessage := v } ]

def read : Reader TelegramConfig :=
  record members initial

def toValue (c : TelegramConfig) : Value :=
  .object
    [ ("enabled", .bool c.enabled),
      ("bot_token", .text c.botToken),
      ("chat_id", .text c.chatId),
      ("cpu_threshold", .double c.cpuThreshold),
      ("memory_threshold", .double c.memoryThreshold),
      ("disk_threshold", .double c.diskThreshold),
      ("check_interval", durationValue c.checkInterval),
      ("cooldown", durationValue c.cooldown),
      ("custom_message", .text c.customMessage) ]

end TelegramConfig

namespace Submission

open Json

def members : List (Member Submission) :=
  [ .of "enabled" .kept bool fun p v => { p with enabled := v },
    .of "bot_token" .kept string fun p v => { p with botToken := v },
    .of "chat_id" .kept string fun p v => { p with chatId := v },
    .of "cpu_threshold" .kept double fun p v => { p with cpuThreshold := v },
    .of "memory_threshold" .kept double fun p v => { p with memoryThreshold := v },
    .of "disk_threshold" .kept double fun p v => { p with diskThreshold := v },
    .of "check_interval" .kept int64 fun p v => { p with checkInterval := v },
    .of "cooldown" .kept int64 fun p v => { p with cooldown := v },
    .of "custom_message" .kept string fun p v => { p with customMessage := v } ]

def read : Reader Submission :=
  record members empty

end Submission

end HostAlert
