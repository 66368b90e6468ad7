import HostAlert.Manager.Check

/-!
# Reports of filter updates

A `Notice` reports that a filter list was refreshed: it copies the settings, collects a snapshot and
sends one message. A delivery that fails is not tried again.
-/

namespace HostAlert.Manager

/-- Where the report of a filter update stands. -/
inductive Notice
  | begun (update : FilterUpdate)
  | collecting (config : TelegramConfig) (update : FilterUpdate)
  | awaiting (call : Http.Call)
  | finished

namespace Notice

def deliver (base : String) (config : TelegramConfig) (message : String) : Notice :=
  if (Text.trimmed message).isEmpty then finished
  else
    match Delivery.prepare base config message with
    | .send call => awaiting call
    | .skip | .fail _ => finished

/-- One step of a report; none when the event is not what it waits for. -/
def step (base : String) (shared : Shared) : Notice → Event → Option (Shared × Notice)
  | begun update, .enter _ _ =>
    some (shared,
      if shared.config.isDeliverable then collecting shared.config update else finished)
  | collecting config update, .collected info =>
    some (shared, deliver base config (Message.filterUpdate config update info))
  | awaiting _, .answered _ => some (shared, finished)
  | _, _ => none

def want : Notice → Want
  | begun _ => .entry
  | collecting _ _ => .snapshot
  | awaiting call => .answer call
  | finished => .nothing

def left : Notice → Nat
  | begun _ => 3
  | collecting _ _ => 2
  | awaiting _ => 1
  | finished => 0

theorem left_deliver (base : String) (config : TelegramConfig) (message : String) :
    (deliver base config message).left ≤ 1 := by
  unfold deliver
  split
  · simp [left]
  · split <;> simp [left]

theorem left_step {base : String} {shared shared' : Shared} {n n' : Notice} {e : Event}
    (h : n.step base shared e = some (shared', n')) : n'.left < n.left := by
  cases n <;> cases e <;> simp only [step, Option.some.injEq, Prod.mk.injEq, reduceCtorEq] at h
  case begun.enter =>
    obtain ⟨-, rfl⟩ := h
    split <;> simp [left]
  case collecting.collected =>
    obtain ⟨-, rfl⟩ := h
    exact Nat.lt_of_le_of_lt (left_deliver ..) (by simp [left])
  case awaiting.answered =>
    obtain ⟨-, rfl⟩ := h
    simp [left]

end Notice

end HostAlert.Manager
