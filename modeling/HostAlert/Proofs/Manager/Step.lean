import HostAlert.Manager.System
import HostAlert.Proofs.Alert.Hysteresis
import HostAlert.Proofs.Message.Substance

/-!
# What one step can do

`Check.Moved` has one constructor for each thing that a step of a check can do, with the guards
under which it does it; `Notice.Moved` and `Task.Moved` are the same for reports and for all tasks.
`Check.moved_of_step` and its like say that there is nothing else, `Check.step_of_moved` that each
of these things is done. An accepted delivery of a check is always an answered call, as an alert is
never blank. Every change of the shared state is one of three operations
(`Task.Moved.shared_cases`).
-/

namespace HostAlert.Manager

namespace Check

/-- What a step of a check can do, from the shared state and the check that it finds to those that
it leaves. -/
inductive Moved (base : String) (s : Shared) : Check → Event → Shared → Check → Prop
  /-- The settings are copied. -/
  | copies (now attempt : Instant) (on : s.config.isDeliverable = true) :
      Moved base s .begun (.enter now attempt) s (.collecting s.config)
  /-- There is nobody to alert. -/
  | declines (now attempt : Instant) (off : s.config.isDeliverable = false) :
      Moved base s .begun (.enter now attempt) s .finished
  | collects (config : TelegramConfig) (info : Snapshot) :
      Moved base s (.collecting config) (.collected info) s (proceed ⟨config, info⟩ Metric.all)
  /-- The evaluation drops the active flag. -/
  | lowers (work : Work) (m : Metric) (rest : List Metric) (now attempt : Instant)
      (low : (evaluation work m (s.alerts.get m) now).clears = true) :
      Moved base s (.examining work m rest) (.enter now attempt) s (.clearing work m rest)
  /-- The evaluation leaves everything as it is. -/
  | passes (work : Work) (m : Metric) (rest : List Metric) (now attempt : Instant)
      (kept : (evaluation work m (s.alerts.get m) now).clears = false)
      (quiet : evaluation work m (s.alerts.get m) now ≠ .startsToExceed) :
      Moved base s (.examining work m rest) (.enter now attempt) s (proceed work rest)
  /-- An alert starts, but there is no URL to send it to. -/
  | fails (work : Work) (m : Metric) (rest : List Metric) (now attempt : Instant)
      (starts : evaluation work m (s.alerts.get m) now = .startsToExceed) (e : DeliveryError)
      (plan : Delivery.prepare base work.config (alertText work m) = .fail e) :
      Moved base s (.examining work m rest) (.enter now attempt) s (proceed work rest)
  /-- An alert starts, and its request goes out. -/
  | sends (work : Work) (m : Metric) (rest : List Metric) (now attempt : Instant)
      (starts : evaluation work m (s.alerts.get m) now = .startsToExceed) (call : Http.Call)
      (plan : Delivery.prepare base work.config (alertText work m) = .send call) :
      Moved base s (.examining work m rest) (.enter now attempt) s
        (.awaiting work m rest attempt call)
  | clears (work : Work) (m : Metric) (rest : List Metric) (now attempt : Instant) :
      Moved base s (.clearing work m rest) (.enter now attempt) (s.clearAlert m)
        (proceed work rest)
  /-- The alert was accepted. -/
  | accepts (work : Work) (m : Metric) (rest : List Metric) (time : Instant) (call : Http.Call)
      (answer : Http.Answer) (ok : Delivery.outcome answer = .ok ()) :
      Moved base s (.awaiting work m rest time call) (.answered answer) s
        (.recording work m rest time)
  /-- The alert was not delivered. -/
  | refuses (work : Work) (m : Metric) (rest : List Metric) (time : Instant) (call : Http.Call)
      (answer : Http.Answer) (e : DeliveryError) (failed : Delivery.outcome answer = .error e) :
      Moved base s (.awaiting work m rest time call) (.answered answer) s (proceed work rest)
  | records (work : Work) (m : Metric) (rest : List Metric) (time : Instant)
      (now attempt : Instant) :
      Moved base s (.recording work m rest time) (.enter now attempt) (s.recordDelivery m time)
        (proceed work rest)

variable {base : String} {s s' : Shared} {c c' : Check} {e : Event}

theorem deliver_of_fail {work : Work} {m : Metric} {e : DeliveryError}
    (h : Delivery.prepare base work.config (alertText work m) = .fail e) (rest : List Metric)
    (attempt : Instant) : deliver base work m rest attempt = proceed work rest := by
  unfold deliver
  generalize Delivery.prepare base work.config (alertText work m) = plan at h
  subst h
  rfl

theorem deliver_of_send {work : Work} {m : Metric} {call : Http.Call}
    (h : Delivery.prepare base work.config (alertText work m) = .send call) (rest : List Metric)
    (attempt : Instant) :
    deliver base work m rest attempt = awaiting work m rest attempt call := by
  unfold deliver
  generalize Delivery.prepare base work.config (alertText work m) = plan at h
  subst h
  rfl

theorem judge_of_starts {work : Work} {m : Metric} {state : AlertState} {now : Instant}
    (h : evaluation work m state now = .startsToExceed) (rest : List Metric) (attempt : Instant) :
    judge base work m rest state now attempt = deliver base work m rest attempt := by
  have hkeep : ¬ (Evaluation.startsToExceed.clears = true) := Bool.false_ne_true
  rw [judge, h, if_neg hkeep, if_pos rfl]

theorem moved_judge (s : Shared) (work : Work) (m : Metric) (rest : List Metric)
    (now attempt : Instant) :
    Moved base s (.examining work m rest) (.enter now attempt) s
      (judge base work m rest (s.alerts.get m) now attempt) := by
  unfold judge
  dsimp only
  by_cases hlow : (evaluation work m (s.alerts.get m) now).clears = true
  · rw [if_pos hlow]
    exact .lowers work m rest now attempt hlow
  · rw [if_neg hlow]
    by_cases hgo : evaluation work m (s.alerts.get m) now = .startsToExceed
    · rw [if_pos hgo]
      -- an alert is never blank
      have hne : Delivery.prepare base work.config (alertText work m) ≠ .skip :=
        Delivery.prepare_alert _ _ _ _ _ _ _
      cases hplan : Delivery.prepare base work.config (alertText work m) with
      | skip => exact absurd hplan hne
      | fail e =>
        rw [deliver_of_fail hplan]
        exact .fails work m rest now attempt hgo e hplan
      | send call =>
        rw [deliver_of_send hplan]
        exact .sends work m rest now attempt hgo call hplan
    · rw [if_neg hgo]
      exact .passes work m rest now attempt (Bool.eq_false_iff.mpr hlow) hgo

/-- A step of a check does nothing else. -/
theorem moved_of_step (h : c.step base s e = some (s', c')) : Moved base s c e s' c' := by
  cases c <;> cases e <;> simp only [step, Option.some.injEq, Prod.mk.injEq, reduceCtorEq] at h
  case begun.enter now attempt =>
    obtain ⟨rfl, rfl⟩ := h
    cases hon : s.config.isDeliverable with
    | true =>
      rw [if_pos rfl]
      exact .copies now attempt hon
    | false =>
      rw [if_neg Bool.false_ne_true]
      exact .declines now attempt hon
  case collecting.collected config info =>
    obtain ⟨rfl, rfl⟩ := h
    exact .collects config info
  case examining.enter work m rest now attempt =>
    obtain ⟨rfl, rfl⟩ := h
    exact moved_judge s work m rest now attempt
  case clearing.enter work m rest now attempt =>
    obtain ⟨rfl, rfl⟩ := h
    exact .clears work m rest now attempt
  case awaiting.answered work m rest time call answer =>
    cases hout : Delivery.outcome answer with
    | ok u =>
      simp only [hout, Option.some.injEq, Prod.mk.injEq] at h
      obtain ⟨rfl, rfl⟩ := h
      exact .accepts work m rest time call answer hout
    | error err =>
      simp only [hout, Option.some.injEq, Prod.mk.injEq] at h
      obtain ⟨rfl, rfl⟩ := h
      exact .refuses work m rest time call answer err hout
  case recording.enter work m rest time now attempt =>
    obtain ⟨rfl, rfl⟩ := h
    exact .records work m rest time now attempt

/-- Each of these things is done in some step. -/
theorem step_of_moved (h : Moved base s c e s' c') : c.step base s e = some (s', c') := by
  cases h with
  | copies now attempt on => rw [step, if_pos on]
  | declines now attempt off => rw [step, off, if_neg Bool.false_ne_true]
  | collects => rfl
  | lowers work m rest now attempt low =>
    rw [step, judge, if_pos low]
  | passes work m rest now attempt kept quiet =>
    rw [step, judge, kept, if_neg Bool.false_ne_true, if_neg quiet]
  | fails work m rest now attempt starts e plan =>
    rw [step, judge_of_starts starts, deliver_of_fail plan]
  | sends work m rest now attempt starts call plan =>
    rw [step, judge_of_starts starts, deliver_of_send plan]
  | clears => rfl
  | accepts work m rest time call answer ok => rw [step, ok]
  | refuses work m rest time call answer e failed => rw [step, failed]
  | records => rfl

/-! ### Where a check stands -/

def isUnderWay : Check → Bool
  | begun | finished => false
  | _ => true

/-- The check is about to end the alert of the metric, or has one of its own on the way. -/
def Handles (m : Metric) : Check → Prop
  | clearing _ n _ | awaiting _ n _ _ _ | recording _ n _ _ => n = m
  | _ => False

/-- The metrics that are still to be examined. -/
def ahead : Check → List Metric
  | begun | collecting _ => Metric.all
  | examining _ m rest => m :: rest
  | clearing _ _ rest | awaiting _ _ rest _ _ | recording _ _ rest _ => rest
  | finished => []

@[simp] theorem ahead_proceed (work : Work) (rest : List Metric) :
    (proceed work rest).ahead = rest := by
  cases rest <;> rfl

theorem not_handles_proceed (work : Work) (rest : List Metric) (m : Metric) :
    ¬ (proceed work rest).Handles m := by
  cases rest <;> exact not_false

theorem isUnderWay_of_handles {m : Metric} (h : c.Handles m) : c.isUnderWay = true := by
  cases c <;> first | rfl | exact h.elim

theorem Moved.ahead_suffix (h : Moved base s c e s' c') : c'.ahead <:+ c.ahead := by
  cases h with
  | declines => exact List.nil_suffix
  | copies => exact List.suffix_refl _
  | collects => rw [ahead_proceed]; exact List.suffix_refl _
  | lowers | sends => exact List.suffix_cons ..
  | passes | fails => rw [ahead_proceed]; exact List.suffix_cons ..
  | accepts => exact List.suffix_refl _
  | clears | refuses | records => rw [ahead_proceed]; exact List.suffix_refl _

/-! ### Reading a step backwards -/

theorem Moved.of_begun {config : TelegramConfig}
    (h : Moved base s .begun e s' (.collecting config)) :
    s.config.isDeliverable = true ∧ s' = s := by
  cases h with
  | copies now attempt on => exact ⟨on, rfl⟩

theorem Moved.awaiting_of_recording {work : Work} {m : Metric} {rest : List Metric}
    {time : Instant} (h : Moved base s c e s' (.recording work m rest time)) :
    ∃ call answer, c = .awaiting work m rest time call ∧ e = .answered answer ∧
      Delivery.outcome answer = .ok () := by
  have hh : (recording work m rest time).Handles m := rfl
  generalize hc : recording work m rest time = c' at h hh
  cases h with
  | accepts work m rest time call answer ok =>
    cases hc
    exact ⟨call, answer, rfl, rfl, ok⟩
  | collects | passes | fails | clears | refuses | records =>
    exact (not_handles_proceed _ _ m hh).elim
  | _ => cases hc

theorem Moved.sends_of_awaiting {work : Work} {m : Metric} {rest : List Metric}
    {time : Instant} {call : Http.Call}
    (h : Moved base s c e s' (.awaiting work m rest time call)) :
    c = .examining work m rest ∧
      (∃ now, evaluation work m (s.alerts.get m) now = .startsToExceed) ∧
      Delivery.prepare base work.config (alertText work m) = .send call := by
  have hh : (awaiting work m rest time call).Handles m := rfl
  generalize hc : awaiting work m rest time call = c' at h hh
  cases h with
  | sends work m rest now attempt starts call plan =>
    cases hc
    exact ⟨rfl, ⟨now, starts⟩, plan⟩
  | collects | passes | fails | clears | refuses | records =>
    exact (not_handles_proceed _ _ m hh).elim
  | _ => cases hc

/-- It does not start to exceed while it is active. -/
theorem Moved.examining_of_awaiting {work : Work} {m : Metric} {rest : List Metric}
    {time : Instant} {call : Http.Call}
    (h : Moved base s c e s' (.awaiting work m rest time call)) :
    c = .examining work m rest ∧ (s.alerts.get m).active = false := by
  obtain ⟨hc, ⟨now, starts⟩, -⟩ := h.sends_of_awaiting
  obtain ⟨-, -, -, hinactive, -⟩ := Evaluation.startsToExceed_iff.mp starts
  exact ⟨hc, hinactive⟩

theorem Moved.of_recording {work : Work} {m : Metric} {rest : List Metric} {time : Instant}
    (h : Moved base s (.recording work m rest time) e s' c') :
    s' = s.recordDelivery m time ∧ c' = proceed work rest := by
  cases h with
  | records => exact ⟨rfl, rfl⟩

end Check

/-! ## Reports -/

namespace Notice

def isUnderWay : Notice → Bool
  | collecting _ _ | awaiting _ => true
  | begun _ | finished => false

/-- What a step of a report can do. It leaves the shared state as it is. -/
inductive Moved (base : String) (s : Shared) : Notice → Event → Notice → Prop
  /-- The settings are copied. -/
  | copies (update : FilterUpdate) (now attempt : Instant) (on : s.config.isDeliverable = true) :
      Moved base s (.begun update) (.enter now attempt) (.collecting s.config update)
  /-- There is nobody to tell. -/
  | declines (update : FilterUpdate) (now attempt : Instant)
      (off : s.config.isDeliverable = false) :
      Moved base s (.begun update) (.enter now attempt) .finished
  | sends (config : TelegramConfig) (update : FilterUpdate) (info : Snapshot) (call : Http.Call)
      (goes : deliver base config (Message.filterUpdate config update info) = .awaiting call) :
      Moved base s (.collecting config update) (.collected info) (.awaiting call)
  /-- There is nothing to send, or no URL to send it to. -/
  | drops (config : TelegramConfig) (update : FilterUpdate) (info : Snapshot)
      (stays : deliver base config (Message.filterUpdate config update info) = .finished) :
      Moved base s (.collecting config update) (.collected info) .finished
  | ends (call : Http.Call) (answer : Http.Answer) :
      Moved base s (.awaiting call) (.answered answer) .finished

variable {base : String} {s s' : Shared} {n n' : Notice} {e : Event}

theorem deliver_cases (base : String) (config : TelegramConfig) (message : String) :
    deliver base config message = finished ∨
      ∃ call, deliver base config message = awaiting call := by
  unfold deliver
  split
  · exact .inl rfl
  · split
    · next call _ => exact .inr ⟨call, rfl⟩
    · exact .inl rfl
    · exact .inl rfl

theorem moved_of_step (h : n.step base s e = some (s', n')) : s' = s ∧ Moved base s n e n' := by
  cases n <;> cases e <;> simp only [step, Option.some.injEq, Prod.mk.injEq, reduceCtorEq] at h
  case begun.enter update now attempt =>
    obtain ⟨rfl, rfl⟩ := h
    refine ⟨rfl, ?_⟩
    cases hon : s.config.isDeliverable with
    | true =>
      rw [if_pos rfl]
      exact .copies update now attempt hon
    | false =>
      rw [if_neg Bool.false_ne_true]
      exact .declines update now attempt hon
  case collecting.collected config update info =>
    obtain ⟨rfl, rfl⟩ := h
    refine ⟨rfl, ?_⟩
    obtain hend | ⟨call, hsend⟩ :=
      deliver_cases base config (Message.filterUpdate config update info)
    · rw [hend]
      exact .drops config update info hend
    · rw [hsend]
      exact .sends config update info call hsend
  case awaiting.answered call answer =>
    obtain ⟨rfl, rfl⟩ := h
    exact ⟨rfl, .ends call answer⟩

theorem Moved.collecting_of_awaiting {call : Http.Call} (h : Moved base s n e (.awaiting call)) :
    ∃ config update, n = .collecting config update := by
  cases h with
  | sends config update => exact ⟨config, update, rfl⟩

end Notice

/-! ## Tasks -/

namespace Task

/-- What a step of a task can do. Only checks and updates touch the shared state. -/
inductive Moved (base : String) (s : Shared) : Task → Event → Shared → Task → Prop
  | checks {c c' : Check} {e : Event} {s' : Shared} (moved : Check.Moved base s c e s' c') :
      Moved base s (.check c) e s' (.check c')
  | notifies {n n' : Notice} {e : Event} (moved : Notice.Moved base s n e n') :
      Moved base s (.notice n) e s (.notice n')
  | tries {t t' : Trial} {e : Event} (moved : t.step base s e = some (s, t')) :
      Moved base s (.trial t) e s (.trial t')
  | replaces (config : TelegramConfig) (now attempt : Instant) :
      Moved base s (.update config) (.enter now attempt) (s.replaceConfig config) .updated

variable {base : String} {s s' : Shared} {t t' : Task} {e : Event}

theorem shared_trial {r r' : Trial} (h : r.step base s e = some (s', r')) : s' = s := by
  cases r <;> cases e <;> simp only [Trial.step, Option.some.injEq, Prod.mk.injEq,
    reduceCtorEq] at h
  all_goals exact h.1.symm

theorem moved_of_step (h : t.step base s e = some (s', t')) : Moved base s t e s' t' := by
  cases t with
  | check c =>
    obtain ⟨⟨s₁, c'⟩, hc, heq⟩ := Option.map_eq_some_iff.mp h
    cases heq
    exact .checks (Check.moved_of_step hc)
  | notice n =>
    obtain ⟨⟨s₁, n'⟩, hn, heq⟩ := Option.map_eq_some_iff.mp h
    cases heq
    obtain ⟨rfl, moved⟩ := Notice.moved_of_step hn
    exact .notifies moved
  | trial r =>
    obtain ⟨⟨s₁, r'⟩, hr, heq⟩ := Option.map_eq_some_iff.mp h
    cases heq
    obtain rfl := shared_trial hr
    exact .tries hr
  | update config =>
    cases e with
    | enter now attempt =>
      cases h
      exact .replaces config now attempt
    | collected => cases h
    | answered => cases h
  | updated => cases e <;> cases h

/-! ### Checks and updates among the tasks -/

theorem Moved.check_from {c : Check} (h : Moved base s (.check c) e s' t') :
    ∃ c', t' = .check c' ∧ Check.Moved base s c e s' c' := by
  cases h with
  | checks moved => exact ⟨_, rfl, moved⟩

theorem Moved.check_to {c' : Check} (h : Moved base s t e s' (.check c')) :
    ∃ c, t = .check c ∧ Check.Moved base s c e s' c' := by
  cases h with
  | checks moved => exact ⟨_, rfl, moved⟩

theorem Moved.notice_to {n' : Notice} (h : Moved base s t e s' (.notice n')) :
    ∃ n, t = .notice n ∧ Notice.Moved base s n e n' := by
  cases h with
  | notifies moved => exact ⟨_, rfl, moved⟩

theorem Moved.of_report_begun {update : FilterUpdate} {config : TelegramConfig}
    (h : Moved base s (.notice (.begun update)) e s' (.notice (.collecting config update))) :
    s.config.isDeliverable = true ∧ s' = s := by
  cases h with
  | notifies moved =>
    cases moved with
    | copies update now attempt on => exact ⟨on, rfl⟩

theorem Moved.of_update {config : TelegramConfig} (h : Moved base s (.update config) e s' t') :
    s' = s.replaceConfig config := by
  cases h with
  | replaces => rfl

/-- The writers of the shared state: an update, the end of an alert, a recorded delivery. -/
theorem Moved.shared_cases (h : Moved base s t e s' t') :
    s' = s ∨ (∃ config, t = .update config ∧ s' = s.replaceConfig config) ∨
      (∃ work m rest, t = .check (.clearing work m rest) ∧ s' = s.clearAlert m) ∨
      ∃ work m rest time, t = .check (.recording work m rest time) ∧
        s' = s.recordDelivery m time := by
  cases h with
  | notifies | tries => exact .inl rfl
  | replaces config => exact .inr (.inl ⟨config, rfl, rfl⟩)
  | checks moved =>
    cases moved with
    | clears work m rest => exact .inr (.inr (.inl ⟨work, m, rest, rfl, rfl⟩))
    | records work m rest time => exact .inr (.inr (.inr ⟨work, m, rest, time, rfl, rfl⟩))
    | _ => exact .inl rfl

end Task

end HostAlert.Manager
