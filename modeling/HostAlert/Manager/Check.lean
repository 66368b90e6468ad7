import HostAlert.Alert.Evaluation
import HostAlert.Delivery
import HostAlert.Manager.Shared
import HostAlert.Message.Compose

/-!
# Checks

A `Check` is one comparison of the host's readings with the thresholds, as a machine that moves by
one `Event` at a time: it copies the settings, collects a snapshot, and then treats the metrics in
turn. The shared state is held only during the single steps that read or change it, never while a
snapshot is collected or an answer awaited. `Check.step` is the only definition of a check; running
one to its end and interleaving many are both built on it.
-/

namespace HostAlert.Manager

/-- What moves a task. -/
inductive Event
  /-- The shared state is held. The clock shows `now` when an alert state is judged and `attempt`
  when a delivery begins. -/
  | enter (now attempt : Instant)
  /-- A snapshot was collected. -/
  | collected (info : Snapshot)
  /-- A call was answered. -/
  | answered (answer : Http.Answer)

/-- What a task waits for. -/
inductive Want
  | entry
  | snapshot
  | answer (call : Http.Call)
  | nothing
  deriving DecidableEq

/-- What a check works with: its copy of the settings and its snapshot. -/
structure Work where
  config : TelegramConfig
  info : Snapshot

/-- Where a check stands. `rest` are the metrics that are still to be treated. -/
inductive Check
  /-- Nothing is done. -/
  | begun
  /-- The settings were copied. -/
  | collecting (config : TelegramConfig)
  /-- The metric is next. -/
  | examining (work : Work) (m : Metric) (rest : List Metric)
  /-- The alert of the metric is to be ended. -/
  | clearing (work : Work) (m : Metric) (rest : List Metric)
  /-- The alert of the metric was sent. -/
  | awaiting (work : Work) (m : Metric) (rest : List Metric) (attempt : Instant) (call : Http.Call)
  /-- The alert of the metric was delivered, which is to be recorded. -/
  | recording (work : Work) (m : Metric) (rest : List Metric) (attempt : Instant)
  /-- Everything is done. -/
  | finished

namespace Check

/-- Goes on to the next metric. -/
def proceed (work : Work) : List Metric → Check
  | [] => finished
  | m :: rest => examining work m rest

def evaluation (work : Work) (m : Metric) (state : AlertState) (now : Instant) : Evaluation :=
  .evaluate (m.reading work.info) (work.config.threshold m) state.active (state.since now)
    work.config.cooldown

def alertText (work : Work) (m : Metric) : String :=
  Message.alert work.config m (m.reading work.info) (work.config.threshold m) work.info

/-- Begins the delivery of an alert. -/
def deliver (base : String) (work : Work) (m : Metric) (rest : List Metric) (attempt : Instant) :
    Check :=
  match Delivery.prepare base work.config (alertText work m) with
  | .skip => recording work m rest attempt
  | .fail _ => proceed work rest
  | .send call => awaiting work m rest attempt call

/-- Treats a metric whose alert state has been read. -/
def judge (base : String) (work : Work) (m : Metric) (rest : List Metric) (state : AlertState)
    (now attempt : Instant) : Check :=
  let e := evaluation work m state now
  if e.clears then clearing work m rest
  else if e = .startsToExceed then deliver base work m rest attempt
  else proceed work rest

/-- One step of a check; none when the event is not what the check waits for. -/
def step (base : String) (shared : Shared) : Check → Event → Option (Shared × Check)
  | begun, .enter _ _ =>
    some (shared, if shared.config.isDeliverable then collecting shared.config else finished)
  | collecting config, .collected info => some (shared, proceed ⟨config, info⟩ Metric.all)
  | examining work m rest, .enter now attempt =>
    some (shared, judge base work m rest (shared.alerts.get m) now attempt)
  | clearing work m rest, .enter _ _ => some (shared.clearAlert m, proceed work rest)
  | awaiting work m rest attempt _, .answered answer =>
    match Delivery.outcome answer with
    | .ok () => some (shared, recording work m rest attempt)
    | .error _ => some (shared, proceed work rest)
  | recording work m rest attempt, .enter _ _ =>
    some (shared.recordDelivery m attempt, proceed work rest)
  | _, _ => none

def want : Check → Want
  | begun | examining .. | clearing .. | recording .. => .entry
  | collecting _ => .snapshot
  | awaiting _ _ _ _ call => .answer call
  | finished => .nothing

/-- A bound on the number of steps that are left. -/
def left : Check → Nat
  | begun => 2 + 3 * Metric.all.length
  | collecting _ => 1 + 3 * Metric.all.length
  | examining _ _ rest => 3 + 3 * rest.length
  | awaiting _ _ rest _ _ => 2 + 3 * rest.length
  | clearing _ _ rest | recording _ _ rest _ => 1 + 3 * rest.length
  | finished => 0

theorem left_proceed (work : Work) (rest : List Metric) :
    (proceed work rest).left = 3 * rest.length := by
  cases rest with
  | nil => rfl
  | cons m rest =>
    simp only [proceed, left, List.length_cons]
    omega

theorem left_deliver (base : String) (work : Work) (m : Metric) (rest : List Metric)
    (attempt : Instant) : (deliver base work m rest attempt).left ≤ 2 + 3 * rest.length := by
  unfold deliver
  split
  · simp [left]
  · rw [left_proceed]
    omega
  · simp [left]

theorem left_judge (base : String) (work : Work) (m : Metric) (rest : List Metric)
    (state : AlertState) (now attempt : Instant) :
    (judge base work m rest state now attempt).left ≤ 2 + 3 * rest.length := by
  unfold judge
  dsimp only
  split
  · simp [left]
  · split
    · exact left_deliver ..
    · rw [left_proceed]
      omega

/-- Every step uses up one of the steps that are left. -/
theorem left_step {base : String} {shared shared' : Shared} {c c' : Check} {e : Event}
    (h : c.step base shared e = some (shared', c')) : c'.left < c.left := by
  cases c <;> cases e <;> simp only [step, Option.some.injEq, Prod.mk.injEq, reduceCtorEq] at h
  case begun.enter =>
    obtain ⟨-, rfl⟩ := h
    split
    · simp only [left]
      omega
    · simp only [left]
      omega
  case collecting.collected =>
    obtain ⟨-, rfl⟩ := h
    rw [left_proceed]
    simp only [left]
    omega
  case examining.enter =>
    obtain ⟨-, rfl⟩ := h
    exact Nat.lt_of_le_of_lt (left_judge ..) (by simp only [left]; omega)
  case clearing.enter =>
    obtain ⟨-, rfl⟩ := h
    rw [left_proceed]
    simp only [left]
    omega
  case awaiting.answered =>
    split at h
    all_goals
      simp only [Option.some.injEq, Prod.mk.injEq] at h
      obtain ⟨-, rfl⟩ := h
    · simp only [left]
      omega
    · rw [left_proceed]
      simp only [left]
      omega
  case recording.enter =>
    obtain ⟨-, rfl⟩ := h
    rw [left_proceed]
    simp only [left]
    omega

end Check

end HostAlert.Manager
