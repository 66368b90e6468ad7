import HostAlert.Proofs.Manager.Confirmed
import HostAlert.Proofs.Manager.Cooldown

/-!
# The writers of the shared state

The settings change with an update. An alert becomes active, and its time changes, when a check
completes it: the check took the time, sent the request, had it accepted, and finds notifications
on. An alert ends when a check clears it after an evaluation, or when an update switches
notifications off. No deed changes the state in any other way (`System.Run.writes`). Reports and
tests change nothing and make at most one request each (`System.Run.asks_once`).
-/

namespace HostAlert.Manager

/-! ## Reading two steps of a check backwards -/

namespace Check

variable {base : String} {s s' : Shared} {c c' : Check} {e : Event}

theorem Moved.entered_of_awaiting {work : Work} {m : Metric} {rest : List Metric}
    {time : Instant} {call : Http.Call}
    (h : Moved base s c e s' (.awaiting work m rest time call)) :
    c = .examining work m rest ∧ ∃ now, e = .enter now time ∧
      evaluation work m (s.alerts.get m) now = .startsToExceed := by
  obtain ⟨rfl, -, -⟩ := h.sends_of_awaiting
  obtain hcarries | ⟨now, _, _, he, -, -, starts⟩ := h.carries_before ⟨rfl, rfl, rfl⟩
  · exact hcarries.elim
  · exact ⟨rfl, now, he, starts⟩

theorem Moved.lowers_of_clearing {work : Work} {m : Metric} {rest : List Metric}
    (h : Moved base s c e s' (.clearing work m rest)) :
    c = .examining work m rest ∧ ∃ now attempt, e = .enter now attempt ∧
      (evaluation work m (s.alerts.get m) now).clears = true := by
  have hh : (clearing work m rest).Handles m := rfl
  generalize hc : clearing work m rest = c' at h hh
  cases h with
  | lowers work m rest now attempt low =>
    cases hc
    exact ⟨rfl, now, attempt, rfl, low⟩
  | collects | passes | fails | clears | refuses | records =>
    exact (not_handles_proceed _ _ m hh).elim
  | _ => cases hc

end Check

/-! ## What a deed writes -/

namespace Deed

/-- A check completes an alert of the metric: it took the time and sent the request in one of these
deeds, the answer to it was accepted in a later one, and now the delivery is recorded. -/
def Completes (d : Deed) (log : List Deed) (m : Metric) (time : Instant) : Prop :=
  d.Records m time ∧ ∃ (i k : Nat) (q a : Deed) (now : Instant), i < k ∧
    log[i]? = some q ∧ q.task = d.task ∧ q.event = .enter now time ∧ q.Requests (some m) ∧
    log[k]? = some a ∧ a.task = d.task ∧ q.after = a.before ∧ a.Accepts m time ∧
    a.after = d.before

/-- A check ends the alert of the metric that it evaluated in one of these deeds. -/
def Clears (d : Deed) (log : List Deed) (m : Metric) : Prop :=
  ∃ (work : Work) (i : Nat) (q : Deed) (now attempt : Instant), log[i]? = some q ∧
    q.task = d.task ∧ q.Examines work m ∧ q.event = .enter now attempt ∧
    (Check.evaluation work m (q.found.alerts.get m) now).clears = true ∧ q.after = d.before

/-- All that a deed after these may write. -/
structure Writes (d : Deed) (log : List Deed) : Prop where
  config : d.left.config = d.found.config ∨
    ∃ config, d.before = .update config ∧ d.left.config = config.normalize
  raised : ∀ m, (d.found.alerts.get m).active = false → (d.left.alerts.get m).active = true →
    d.found.config.enabled = true ∧ ∃ time, d.Completes log m time
  dropped : ∀ m, (d.found.alerts.get m).active = true → (d.left.alerts.get m).active = false →
    d.Clears log m ∨ d.Switches false
  dated : ∀ m, (d.left.alerts.get m).lastAlert = (d.found.alerts.get m).lastAlert ∨
    d.found.config.enabled = true ∧ ∃ time, d.Completes log m time ∧
      (d.left.alerts.get m).lastAlert = some time

namespace Does

variable {base : String} {s : System} {d : Deed} {m : Metric}

theorem config_cases (does : d.Does base s) : d.left.config = d.found.config ∨
    ∃ config, d.before = .update config ∧ d.left.config = config.normalize := by
  obtain heq | ⟨new, hb, heq⟩ | ⟨work, m, rest, -, heq⟩ | ⟨work, m, rest, time, -, heq⟩ :=
    does.taskMoved.shared_cases
  · exact .inl (by rw [heq])
  · exact .inr ⟨new, hb, by rw [heq, Shared.config_replaceConfig]⟩
  · exact .inl (by rw [heq, Shared.config_clearAlert])
  · exact .inl (by rw [heq, Shared.config_recordDelivery])

theorem clearing_or_switches (does : d.Does base s) (active : (d.found.alerts.get m).active = true)
    (inactive : (d.left.alerts.get m).active = false) :
    (∃ work rest, d.before = .check (.clearing work m rest)) ∨ d.Switches false := by
  obtain heq | ⟨new, hb, heq⟩ | ⟨work, n, rest, hb, heq⟩ | ⟨work, n, rest, time, -, heq⟩ :=
    does.taskMoved.shared_cases
  · rw [heq, active] at inactive
    cases inactive
  · rw [heq, Shared.replaceConfig] at inactive
    split at inactive
    · rw [active] at inactive
      cases inactive
    · next off => exact .inr ⟨new, hb, Bool.eq_false_iff.mpr off⟩
  · rw [heq, Shared.clearAlert, AlertStates.get_clear] at inactive
    split at inactive
    · next hm => exact .inl ⟨work, rest, hm ▸ hb⟩
    · rw [active] at inactive
      cases inactive
  · rw [heq, Shared.recordDelivery] at inactive
    split at inactive
    · rw [AlertStates.get_markActive] at inactive
      split at inactive
      · cases inactive
      · rw [active] at inactive
        cases inactive
    · rw [active] at inactive
      cases inactive

end Does

end Deed

namespace System.Run

variable {base : String} {config : TelegramConfig} {ok : System → Prop} {s : System}
  {log : List Deed} {d : Deed} {m : Metric}

/-- A deed that finds its task moved comes after one of the same task, which left it so. -/
theorem deed_earlier (run : Run base config ok s log) (does : d.Does base s)
    (moved : d.before.isFresh = false) :
    ∃ (k : Nat) (a : Deed) (s₀ : System), log[k]? = some a ∧ a.task = d.task ∧
      a.after = d.before ∧ a.Does base s₀ := by
  obtain ⟨k, a, ha, htask, hafter⟩ := run.deed_of_task does.here moved
  obtain ⟨s₀, -, did, -⟩ := run.systemAt ha
  exact ⟨k, a, s₀, ha, htask, hafter, did⟩

theorem completes_of_records (run : Run base config ok s log) (does : d.Does base s)
    {time : Instant} (records : d.Records m time) : d.Completes log m time := by
  obtain ⟨work, rest, hb⟩ := records
  obtain ⟨k, a, s₁, ha, htask, hafter, accepted⟩ := run.deed_earlier does (by rw [hb]; rfl)
  have accepts := accepted.accepts_of_recording (hafter.trans hb)
  obtain ⟨work', rest', call, answer, hb', -⟩ := id accepts
  obtain ⟨i, q, s₂, hik, hq, htask', hafter', sent⟩ := run.deed_before ha (by rw [hb']; rfl)
  obtain ⟨c, -, moved⟩ := sent.movedTo (hafter'.trans hb')
  obtain ⟨-, now, he, -⟩ := moved.entered_of_awaiting
  exact ⟨⟨work, rest, hb⟩, i, k, q, a, now, hik, hq, htask'.trans htask, he,
    ⟨work', rest', time, call, hafter'.trans hb'⟩, ha, htask, hafter', accepts, hafter⟩

theorem clears_of_clearing (run : Run base config ok s log) (does : d.Does base s) {work : Work}
    {rest : List Metric} (hb : d.before = .check (.clearing work m rest)) : d.Clears log m := by
  obtain ⟨i, q, s₀, hq, htask, hafter, evaluated⟩ := run.deed_earlier does (by rw [hb]; rfl)
  obtain ⟨c, hc, moved⟩ := evaluated.movedTo (hafter.trans hb)
  obtain ⟨rfl, now, attempt, he, low⟩ := moved.lowers_of_clearing
  exact ⟨work, i, q, now, attempt, hq, htask, ⟨rest, hc⟩, he, low, hafter⟩

/-- Whatever comes next in a run, it writes nothing else. -/
theorem writes (run : Run base config ok s log) (does : d.Does base s) : d.Writes log where
  config := does.config_cases
  raised m inactive active := by
    obtain ⟨⟨time, records⟩, on⟩ := does.marks_of_active inactive active
    exact ⟨on, time, run.completes_of_records does records⟩
  dropped m active inactive := by
    obtain ⟨work, rest, hb⟩ | off := does.clearing_or_switches active inactive
    · exact .inl (run.clears_of_clearing does hb)
    · exact .inr off
  dated m := by
    rw [does.found]
    obtain same | ⟨work, rest, time, hb, hlast, on⟩ := @Deed.Does.lastAlert_cases _ _ _ m does
    · exact .inl same
    · exact .inr ⟨on, time, run.completes_of_records does ⟨work, rest, hb⟩, hlast⟩

end System.Run

/-! ## Reports and tests -/

namespace Task

/-- The task is a report or a test. -/
def isMessage : Task → Bool
  | notice _ | trial _ => true
  | _ => false

variable {base : String} {s s' : Shared} {t t' : Task} {e : Event}

theorem left_step (h : t.step base s e = some (s', t')) : t'.left < t.left := by
  cases t with
  | check c =>
    obtain ⟨⟨_, c'⟩, hc, heq⟩ := Option.map_eq_some_iff.mp h
    cases heq
    exact Check.left_step hc
  | notice n =>
    obtain ⟨⟨_, n'⟩, hn, heq⟩ := Option.map_eq_some_iff.mp h
    cases heq
    exact Notice.left_step hn
  | trial r =>
    obtain ⟨⟨_, r'⟩, hr, heq⟩ := Option.map_eq_some_iff.mp h
    cases heq
    exact Trial.left_step hr
  | update config =>
    cases e with
    | enter =>
      cases h
      exact Nat.zero_lt_one
    | collected | answered => cases h
  | updated => cases e <;> cases h

theorem Moved.isMessage_eq (h : Moved base s t e s' t') : t'.isMessage = t.isMessage := by
  cases h <;> rfl

theorem Moved.shared_of_isMessage (h : Moved base s t e s' t') (ht : t.isMessage = true) :
    s' = s := by
  cases h with
  | notifies | tries => rfl
  | checks | replaces => cases ht

theorem left_of_answer {call : Http.Call} (ht : t.isMessage = true)
    (hw : t.want = .answer call) : t.left = 1 := by
  cases t with
  | notice n => cases n <;> first | rfl | cases hw
  | trial r => cases r <;> first | rfl | cases hw
  | check | update | updated => cases ht

theorem want_of_left (ht : t.isMessage = true) (hleft : t.left = 0) : t.want = .nothing := by
  cases t with
  | notice n => cases n <;> first | rfl | cases hleft
  | trial r => cases r <;> first | rfl | cases hleft
  | check | update | updated => cases ht

end Task

/-- The task of the deed makes a request and waits for the answer. -/
def Deed.Asks (d : Deed) : Prop :=
  ∃ call, d.after.want = .answer call

namespace System.Run

variable {base : String} {config : TelegramConfig} {ok : System → Prop} {s : System}
  {log : List Deed} {d : Deed}

/-- A task has no more steps left than one of its deeds left it, and is of the same kind. -/
theorem since_deed (run : Run base config ok s log) {k : Nat} {t : Task} (hd : log[k]? = some d)
    (ht : s.tasks[d.task]? = some t) :
    t.left ≤ d.after.left ∧ t.isMessage = d.after.isMessage := by
  induction run generalizing t with
  | initial => cases hd
  | begins run₁ t₁ _ _ ih =>
    obtain hold | ⟨hnew, -⟩ := getElem?_snoc.mp ht
    · exact ih hd hold
    · exact absurd hnew (Nat.ne_of_lt (run₁.task_lt hd))
  | @steps s₁ log₁ run₁ d₁ does _ ih =>
    obtain hold | ⟨-, rfl⟩ := getElem?_snoc.mp hd
    · obtain ⟨heq, rfl⟩ | ⟨-, htask⟩ := does.tasks_result ht
      · obtain ⟨hleft, hkind⟩ := ih hold (heq ▸ does.here)
        have hstep := Task.left_step does.moved
        exact ⟨by omega, does.taskMoved.isMessage_eq.trans hkind⟩
      · exact ih hold htask
    · obtain rfl : t = d₁.after := Option.some.inj (ht.symm.trans does.tasks_self)
      exact ⟨Nat.le_refl _, rfl⟩

theorem not_asks_again (run : Run base config ok s log) {i j : Nat} {a b : Deed} (hij : i < j)
    (ha : log[i]? = some a) (hb : log[j]? = some b) (htask : a.task = b.task)
    (message : b.before.isMessage = true) (asks : a.Asks) : ¬ b.Asks := by
  rintro ⟨call, hw⟩
  obtain ⟨s₀, run₀, does, -⟩ := run.systemAt hb
  obtain ⟨hleft, hkind⟩ :=
    run₀.since_deed (getElem?_take_iff.mpr ⟨hij, ha⟩) (htask ▸ does.here)
  obtain ⟨call', hw'⟩ := asks
  have hfirst := Task.left_of_answer (hkind.symm.trans message) hw'
  have hagain := Task.left_of_answer (does.taskMoved.isMessage_eq.trans message) hw
  have hstep := Task.left_step does.moved
  omega

/-- A report or a test changes nothing in the shared state, and it makes at most one request. -/
theorem asks_once (run : Run base config ok s log) {j : Nat} (hd : log[j]? = some d)
    (message : d.before.isMessage = true) : d.left = d.found ∧
      (d.Asks → ∀ (k : Nat) (a : Deed), log[k]? = some a → a.task = d.task → a.Asks → k = j) := by
  obtain ⟨s₀, run₀, does, -⟩ := run.systemAt hd
  refine ⟨does.taskMoved.shared_of_isMessage message, fun asks k a ha htask asks' => ?_⟩
  obtain hkj | rfl | hjk := Nat.lt_trichotomy k j
  · exact absurd asks (run.not_asks_again hkj ha hd htask message asks')
  · rfl
  · have kind : a.before.isMessage = true := by
      obtain ⟨s₁, run₁, does₁, -⟩ := run.systemAt ha
      obtain ⟨-, hkind⟩ :=
        run₁.since_deed (getElem?_take_iff.mpr ⟨hjk, hd⟩) (htask ▸ does₁.here)
      exact hkind.trans (does.taskMoved.isMessage_eq.trans message)
    exact absurd asks' (run.not_asks_again hjk hd ha htask.symm kind asks)

end System.Run

end HostAlert.Manager
