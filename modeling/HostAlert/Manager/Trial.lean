import HostAlert.Manager.Check

/-!
# Test messages

A `Trial` sends a test message with the current credentials. Notifications do not have to be
switched on; a blank message is replaced by a fixed one.
-/

namespace HostAlert.Manager

/-- Where the delivery of a test message stands. -/
inductive Trial
  | begun (message : String)
  | awaiting (call : Http.Call)
  | finished (outcome : Outcome)

namespace Trial

/-- What is sent when no message is given. -/
def defaultMessage : String := "Hostwatch test notification"

def messageOrDefault (message : String) : String :=
  let text := Text.trimmed message
  if text.isEmpty then defaultMessage else text

/-- Begins the delivery with a copy of the settings. -/
def deliver (base : String) (config : TelegramConfig) (message : String) : Trial :=
  if !config.hasCredentials then finished (.error .incompleteConfig)
  else
    match Delivery.prepare base config (messageOrDefault message) with
    | .skip => finished (.ok ())
    | .fail e => finished (.error e)
    | .send call => awaiting call

/-- One step of a test; none when the event is not what it waits for. -/
def step (base : String) (shared : Shared) : Trial → Event → Option (Shared × Trial)
  | begun message, .enter _ _ => some (shared, deliver base shared.config message)
  | awaiting _, .answered answer => some (shared, finished (Delivery.outcome answer))
  | _, _ => none

def want : Trial → Want
  | begun _ => .entry
  | awaiting call => .answer call
  | finished _ => .nothing

def left : Trial → Nat
  | begun _ => 2
  | awaiting _ => 1
  | finished _ => 0

theorem left_deliver (base : String) (config : TelegramConfig) (message : String) :
    (deliver base config message).left ≤ 1 := by
  unfold deliver
  split
  · simp [left]
  · split <;> simp [left]

theorem left_step {base : String} {shared shared' : Shared} {t t' : Trial} {e : Event}
    (h : t.step base shared e = some (shared', t')) : t'.left < t.left := by
  cases t <;> cases e <;> simp only [step, Option.some.injEq, Prod.mk.injEq, reduceCtorEq] at h
  case begun.enter =>
    obtain ⟨-, rfl⟩ := h
    exact Nat.lt_of_le_of_lt (left_deliver ..) (by simp [left])
  case awaiting.answered =>
    obtain ⟨-, rfl⟩ := h
    simp [left]

end Trial

end HostAlert.Manager
