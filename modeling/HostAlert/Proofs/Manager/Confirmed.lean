import HostAlert.Proofs.Manager.Disabling
import HostAlert.Proofs.Manager.Dispatch

/-!
# Active alerts were confirmed

An alert becomes active only when a check records its delivery (`Deed.Does.marks_of_active`). A
delivery that is skipped would count as a success without a request, but no alert and no report is
blank, so none is skipped. What a check records it has therefore requested, once, with an answer
that confirms the delivery (`System.Run.confirmed_before_active`).
-/

namespace HostAlert.Manager

/-! ## Deliveries that are not skipped -/

/-- A report is not blank, and it is sent unless there is no URL to send it to. -/
theorem Notice.deliver_filterUpdate (base : String) (config : TelegramConfig)
    (update : FilterUpdate) (info : Snapshot) :
    let message := Message.filterUpdate config update info
    (Text.trimmed message).isEmpty = false ∧
      ((∃ call, Delivery.prepare base config message = .send call ∧
        deliver base config message = .awaiting call) ∨
      ∃ e, Delivery.prepare base config message = .fail e ∧
        deliver base config message = .finished) := by
  have hne : (Text.trimmed (Message.filterUpdate config update info)).isEmpty = false := by
    rw [Bool.eq_false_iff, ne_eq, Text.trimmed, String.isEmpty_iff, String.ofList_eq_empty_iff]
    exact Message.trim_filterUpdate config update info
  have hplan := Delivery.prepare_filterUpdate base config config update info
  intro message
  refine ⟨hne, ?_⟩
  rw [deliver, hne, if_neg Bool.false_ne_true]
  cases hprepare : Delivery.prepare base config message with
  | skip => exact absurd hprepare hplan
  | fail e => exact .inr ⟨e, rfl, rfl⟩
  | send call => exact .inl ⟨call, rfl, rfl⟩

/-! ## What a check does before it marks a metric -/

namespace Deed

/-- The request of an alert of the metric goes out with the call. -/
def Sends (d : Deed) (work : Work) (m : Metric) (call : Http.Call) : Prop :=
  ∃ rest time, d.after = .check (.awaiting work m rest time call)

def Answers (d : Deed) (work : Work) (m : Metric) (call : Http.Call) (answer : Http.Answer) :
    Prop :=
  ∃ rest time, d.before = .check (.awaiting work m rest time call) ∧ d.event = .answered answer

/-- The metric is marked as active: the delivery of its alert is recorded, with notifications on. -/
def Marks (d : Deed) (m : Metric) : Prop :=
  (∃ time, d.Records m time) ∧ d.found.config.enabled = true

variable {base : String} {s : System} {d : Deed} {m : Metric}

/-- Nothing else makes an alert active. -/
theorem Does.marks_of_active (does : d.Does base s)
    (inactive : (d.found.alerts.get m).active = false)
    (active : (d.left.alerts.get m).active = true) : d.Marks m := by
  obtain heq | ⟨config, -, heq⟩ | ⟨work, n, rest, -, heq⟩ | ⟨work, n, rest, time, hb, heq⟩ :=
    does.taskMoved.shared_cases
  · rw [heq, inactive] at active
    cases active
  · rw [heq, Shared.replaceConfig] at active
    split at active
    · rw [inactive] at active
      cases active
    · rw [AlertStates.get_clearAll] at active
      cases active
  · rw [heq, Shared.clearAlert, AlertStates.get_clear] at active
    split at active
    · cases active
    · rw [inactive] at active
      cases active
  · rw [heq, Shared.recordDelivery] at active
    split at active
    · next on =>
      rw [AlertStates.get_markActive] at active
      split at active
      · next hm => exact ⟨⟨time, work, rest, hm ▸ hb⟩, on⟩
      · rw [inactive] at active
        cases active
    · rw [inactive] at active
      cases active

end Deed

/-- A check requested the alert of a metric at one position of the history, and only there; the
answer at another one confirms the delivery. -/
structure Confirmed (log : List Deed) (task : Nat) (m : Metric) (work : Work) (call : Http.Call)
    (i k : Nat) : Prop where
  requested : ∃ q, log[i]? = some q ∧ q.task = task ∧ q.Sends work m call
  once : ∀ (j : Nat) (q : Deed), log[j]? = some q → q.task = task → q.Requests (some m) → j = i
  posted : Delivery.Posts call work.config.chatId (Check.alertText work m)
  notBlank : Text.trim (Delivery.messageText (Check.alertText work m)).toList ≠ []
  answered : ∃ a r, log[k]? = some a ∧ a.task = task ∧ a.Answers work m call (.reply r) ∧
    Delivery.Confirms r

namespace System.Run

variable {base : String} {config : TelegramConfig} {ok : System → Prop} {s : System}
  {log : List Deed} {m : Metric}

theorem sent_before_answer (run : Run base config ok s log) {k : Nat} {a : Deed} {work : Work}
    {rest : List Metric} {time : Instant} {call : Http.Call} (ha : log[k]? = some a)
    (hb : a.before = .check (.awaiting work m rest time call)) :
    ∃ (i : Nat) (q : Deed), i < k ∧ log[i]? = some q ∧ q.task = a.task ∧ q.Sends work m call ∧
      Delivery.Posts call work.config.chatId (Check.alertText work m) := by
  obtain ⟨i, q, s₀, hik, hq, htask, hafter, sends⟩ := run.deed_before ha (by rw [hb]; rfl)
  obtain ⟨c, -, moved⟩ := sends.movedTo (hafter.trans hb)
  obtain ⟨-, -, plan⟩ := moved.sends_of_awaiting
  exact ⟨i, q, hik, hq, htask, ⟨rest, time, hafter.trans hb⟩, Delivery.posts_of_prepare plan⟩

/-- An alert that is to be recorded was confirmed by an answer before. -/
theorem answered_before_record (run : Run base config ok s log) {j : Nat} {d : Deed}
    {time : Instant} (hd : log[j]? = some d) (records : d.Records m time) :
    ∃ (k : Nat) (a : Deed) (work : Work) (call : Http.Call) (r : Http.Reply), k < j ∧
      log[k]? = some a ∧ a.task = d.task ∧ a.Answers work m call (.reply r) ∧
      Delivery.Confirms r := by
  obtain ⟨work, rest, hb⟩ := records
  obtain ⟨k, a, s₀, hkj, ha, htask, hafter, accepts⟩ := run.deed_before hd (by rw [hb]; rfl)
  obtain ⟨work', rest', call, answer, hb', event, hout⟩ :=
    accepts.accepts_of_recording (hafter.trans hb)
  obtain ⟨r, rfl, confirms⟩ := Delivery.outcome_eq_ok_iff.mp hout
  exact ⟨k, a, work', call, r, hkj, ha, htask, ⟨rest', time, hb', event⟩, confirms⟩

/-- What a check records it has requested once and had confirmed. -/
theorem confirmed_of_records (run : Run base config ok s log) {j : Nat} {d : Deed} {time : Instant}
    (hd : log[j]? = some d) (records : d.Records m time) :
    ∃ (work : Work) (call : Http.Call) (i k : Nat), i < k ∧ k < j ∧
      Confirmed log d.task m work call i k := by
  obtain ⟨k, a, work, call, r, hkj, ha, htask, answers, confirms⟩ :=
    run.answered_before_record hd records
  obtain ⟨rest, attempt, hb, event⟩ := answers
  obtain ⟨i, q, hik, hq, htask', sends, posts⟩ := run.sent_before_answer ha hb
  have hrequests : q.Requests (some m) := by
    obtain ⟨rest, attempt, hafter⟩ := sends
    exact ⟨work, rest, attempt, call, hafter⟩
  refine ⟨work, call, i, k, hik, hkj, ⟨q, hq, htask'.trans htask, sends⟩, ?_, posts, ?_,
    ⟨a, r, ha, htask, ⟨rest, attempt, hb, event⟩, confirms⟩⟩
  · intro j' q' hq' htask₁ hrequests'
    exact run.request_unique hq' hq (htask₁.trans (htask'.trans htask).symm) hrequests' hrequests
  · obtain ⟨c, rest, hhead, hblank⟩ := posts.text.head
    exact Text.trim_ne_nil (hhead ▸ List.mem_cons_self) hblank

/-- An alert becomes active only when a check marks its metric. Before it does, the same check has
requested the alert exactly once, with a text, and the answer confirmed the delivery: alerts and
reports are never blank, so that no delivery of them succeeds without a request. -/
theorem confirmed_before_active (run : Run base config ok s log) (m : Metric) :
    (∀ (j : Nat) (d : Deed), log[j]? = some d → (d.found.alerts.get m).active = false →
      (d.left.alerts.get m).active = true → d.Marks m) ∧
    (∀ (j : Nat) (d : Deed), log[j]? = some d → d.Marks m →
      ∃ (work : Work) (call : Http.Call) (i k : Nat), i < k ∧ k < j ∧
        Confirmed log d.task m work call i k) ∧
    (∀ (base : String) (work : Work),
      Delivery.prepare base work.config (Check.alertText work m) ≠ .skip) ∧
    ∀ (base : String) (config : TelegramConfig) (update : FilterUpdate) (info : Snapshot),
      let message := Message.filterUpdate config update info
      (Text.trimmed message).isEmpty = false ∧
        ((∃ call, Delivery.prepare base config message = .send call ∧
          Notice.deliver base config message = .awaiting call) ∨
        ∃ e, Delivery.prepare base config message = .fail e ∧
          Notice.deliver base config message = .finished) := by
  refine ⟨fun j d hd inactive active => ?_, fun j d hd marks => ?_, fun base work => ?_,
    Notice.deliver_filterUpdate⟩
  · obtain ⟨s₀, -, does, -⟩ := run.systemAt hd
    exact does.marks_of_active inactive active
  · obtain ⟨⟨time, records⟩, -⟩ := marks
    exact run.confirmed_of_records hd records
  · exact Delivery.prepare_alert _ _ _ _ _ _ _

end System.Run

theorem Sample.confirmed_finished : ∃ (log : List Deed) (d : Deed) (work : Work) (call : Http.Call)
    (i k : Nat), log[4]? = some d ∧ d.Marks .cpu ∧ i < k ∧ k < 4 ∧
      Confirmed log d.task .cpu work call i k := by
  obtain ⟨call, run⟩ := run_finished
  obtain ⟨-, marked, -, -⟩ := System.Run.confirmed_before_active run .cpu
  have marks : Deed.Marks ⟨0, .enter time time, .initial settings,
      .check (.recording (work 1) .cpu [.memory, .disk] time), recorded,
      .check (.examining (work 1) .memory [.disk])⟩ .cpu :=
    ⟨⟨time, work 1, [.memory, .disk], rfl⟩, rfl⟩
  obtain ⟨work, call, i, k, hik, hk, confirmed⟩ := marked 4 _ rfl marks
  exact ⟨_, _, work, call, i, k, rfl, marks, hik, hk, confirmed⟩

end HostAlert.Manager
