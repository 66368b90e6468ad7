import HostAlert.Proofs.Manager.Step

/-!
# Runs and their histories

A `Deed` is a step that a task made, with what it found and what it left. `System.Run` is
`System.Reach` with the deeds kept in their order; a property asked of every system on the way
stands beside it, such as `System.Serial`, that checks do not overlap. `Run.systemAt` gives back the
system in which a deed was done. Two facts tie the settings to the history: a check or a report
that is under way has copied deliverable settings (`Run.copied`), and once they were copied,
notifications are off only after an update that switched them off (`Run.disabled_since_copy`).
-/

namespace HostAlert.Manager

/-! ## Tasks under way -/

namespace Task

/-- The task is a check that has copied its settings and has not ended. -/
def isCheckUnderWay : Task → Bool
  | check c => c.isUnderWay
  | _ => false

/-- The task has copied its settings for deliveries and has not ended. -/
def isUnderWay : Task → Bool
  | check c => c.isUnderWay
  | notice n => n.isUnderWay
  | _ => false

theorem isUnderWay_fresh {t : Task} (h : t.isFresh = true) : t.isUnderWay = false := by
  cases t with
  | check c => cases c <;> first | rfl | cases h
  | notice n => cases n <;> first | rfl | cases h
  | _ => rfl

end Task

namespace System

/-- Checks do not overlap. -/
def Serial (s : System) : Prop := s.tasks.countP Task.isCheckUnderWay ≤ 1

end System

theorem position_unique {α : Type} {p : α → Bool} {l : List α} (h : l.countP p ≤ 1) {i j : Nat}
    {a b : α} (hi : l[i]? = some a) (hj : l[j]? = some b) (ha : p a = true) (hb : p b = true) :
    i = j := by
  induction l generalizing i j with
  | nil => cases hi
  | cons x xs ih =>
    rw [List.countP_cons] at h
    have apart : ∀ {k : Nat} {c : α}, xs[k]? = some c → p c = true → p x = true → False := by
      intro k c hc hpc hpx
      have hpos : 0 < xs.countP p :=
        List.countP_pos_iff.mpr ⟨c, List.mem_of_getElem? hc, hpc⟩
      rw [if_pos hpx] at h
      omega
    cases i with
    | zero =>
      cases j with
      | zero => rfl
      | succ j =>
        cases hi
        exact (apart hj hb ha).elim
    | succ i =>
      cases j with
      | zero =>
        cases hj
        exact (apart hi ha hb).elim
      | succ j => rw [ih (by omega) hi hj]

theorem System.Serial.unique {s : System} (h : s.Serial) {i j : Nat} {c d : Check}
    (hi : s.tasks[i]? = some (.check c)) (hj : s.tasks[j]? = some (.check d))
    (hc : c.isUnderWay = true) (hd : d.isUnderWay = true) : i = j :=
  position_unique h hi hj hc hd

/-! ## Deeds -/

/-- A step that was made by the task of a number. -/
structure Deed where
  task : Nat
  event : Event
  found : Shared
  before : Task
  left : Shared
  after : Task

namespace Deed

structure Does (base : String) (d : Deed) (s : System) : Prop where
  found : d.found = s.shared
  here : s.tasks[d.task]? = some d.before
  moved : d.before.step base d.found d.event = some (d.left, d.after)

def result (d : Deed) (s : System) : System := ⟨d.left, s.tasks.set d.task d.after⟩

/-- A check or a report copies its settings. -/
def Copies (d : Deed) : Prop :=
  d.before = .check .begun ∧ d.after = .check (.collecting d.found.config) ∨
    ∃ update, d.before = .notice (.begun update) ∧
      d.after = .notice (.collecting d.found.config update)

/-- A check reads the alert state of the metric and judges it. -/
def Examines (d : Deed) (work : Work) (m : Metric) : Prop :=
  ∃ rest, d.before = .check (.examining work m rest)

/-- The request for an alert of the metric, or for a report without one, goes out. -/
def Requests (d : Deed) : Option Metric → Prop
  | some m => ∃ work rest time call, d.after = .check (.awaiting work m rest time call)
  | none => ∃ call, d.after = .notice (.awaiting call)

/-- An alert of the metric, attempted at the time, was answered and accepted. -/
def Accepts (d : Deed) (m : Metric) (time : Instant) : Prop :=
  ∃ work rest call answer, d.before = .check (.awaiting work m rest time call) ∧
    d.event = .answered answer ∧ Delivery.outcome answer = .ok ()

/-- A check takes the state to record the delivery of an alert. -/
def Records (d : Deed) (m : Metric) (time : Instant) : Prop :=
  ∃ work rest, d.before = .check (.recording work m rest time)

/-- The settings are replaced by ones that are switched on or off. -/
def Switches (d : Deed) (on : Bool) : Prop :=
  ∃ config, d.before = .update config ∧ config.enabled = on

variable {base : String} {s : System} {d : Deed}

namespace Does

theorem taskMoved (h : d.Does base s) :
    Task.Moved base d.found d.before d.event d.left d.after :=
  Task.moved_of_step h.moved

/-- Only the task that steps changes. -/
theorem tasks_result (h : d.Does base s) {j : Nat} {t : Task}
    (ht : (d.result s).tasks[j]? = some t) :
    j = d.task ∧ t = d.after ∨ j ≠ d.task ∧ s.tasks[j]? = some t := by
  obtain ⟨hlt, -⟩ := List.getElem?_eq_some_iff.mp h.here
  by_cases hj : j = d.task
  · subst hj
    rw [result, List.getElem?_set_self hlt] at ht
    exact .inl ⟨rfl, (Option.some.inj ht).symm⟩
  · rw [result, List.getElem?_set_ne (Ne.symm hj)] at ht
    exact .inr ⟨hj, ht⟩

theorem tasks_self (h : d.Does base s) : (d.result s).tasks[d.task]? = some d.after := by
  obtain ⟨hlt, -⟩ := List.getElem?_eq_some_iff.mp h.here
  rw [result, List.getElem?_set_self hlt]

theorem tasks_other {j : Nat} (hj : j ≠ d.task) : (d.result s).tasks[j]? = s.tasks[j]? := by
  rw [result, List.getElem?_set_ne (Ne.symm hj)]

theorem movedTo (h : d.Does base s) {c' : Check} (ha : d.after = .check c') :
    ∃ c, d.before = .check c ∧ Check.Moved base d.found c d.event d.left c' :=
  (ha ▸ h.taskMoved).check_to

theorem movedFrom (h : d.Does base s) {c : Check} (hb : d.before = .check c) :
    ∃ c', d.after = .check c' ∧ Check.Moved base d.found c d.event d.left c' :=
  (hb ▸ h.taskMoved).check_from

/-- A task is under way from the time it copies its settings, which are deliverable. -/
theorem underWay_before (h : d.Does base s) (hw : d.after.isUnderWay = true) :
    d.before.isUnderWay = true ∨ d.Copies := by
  have hm := h.taskMoved
  rw [Copies]
  generalize d.before = before at hm ⊢
  generalize d.event = e at hm
  generalize d.left = left at hm
  generalize d.after = after at hm hw ⊢
  cases hm with
  | checks moved =>
    cases moved with
    | copies => exact .inr (.inl ⟨rfl, rfl⟩)
    | declines => cases hw
    | _ => exact .inl rfl
  | notifies moved =>
    cases moved with
    | copies update => exact .inr (.inr ⟨update, rfl, rfl⟩)
    | declines => cases hw
    | _ => exact .inl rfl
  | tries => cases hw
  | replaces => cases hw

/-- Only deliverable settings are copied, and copying changes nothing. -/
theorem deliverable_of_copies (h : d.Does base s) (hc : d.Copies) :
    d.found.config.isDeliverable = true ∧ d.left = d.found := by
  obtain ⟨hb, ha⟩ | ⟨update, hb, ha⟩ := hc
  · obtain ⟨c, hb', moved⟩ := h.movedTo ha
    rw [hb] at hb'
    cases hb'
    exact moved.of_begun
  · have hm := h.taskMoved
    rw [hb, ha] at hm
    exact hm.of_report_begun

theorem enabled_left (h : d.Does base s) :
    d.left.config.enabled = d.found.config.enabled ∨
      ∃ config, d.before = .update config ∧ d.left.config.enabled = config.enabled := by
  obtain heq | ⟨new, hb, heq⟩ | ⟨work, m, rest, -, heq⟩ | ⟨work, m, rest, time, -, heq⟩ :=
    h.taskMoved.shared_cases
  · exact .inl (by rw [heq])
  · exact .inr ⟨new, hb, by rw [heq]; rfl⟩
  · exact .inl (by rw [heq, Shared.config_clearAlert])
  · exact .inl (by rw [heq, Shared.config_recordDelivery])

theorem enabled_of_switches (h : d.Does base s) {on : Bool} (hs : d.Switches on) :
    d.left.config.enabled = on := by
  obtain ⟨config, hb, rfl⟩ := hs
  have hm := h.taskMoved
  rw [hb] at hm
  rw [hm.of_update]
  rfl

theorem recording_of_accepts (h : d.Does base s) {m : Metric} {time : Instant}
    (ha : d.Accepts m time) : ∃ work rest, d.after = .check (.recording work m rest time) := by
  obtain ⟨work, rest, call, answer, hb, he, hout⟩ := ha
  have hstep := h.moved
  rw [hb, he] at hstep
  simp only [Task.step, Check.step, hout, Option.map_some, Option.some.injEq,
    Prod.mk.injEq] at hstep
  exact ⟨work, rest, hstep.2.symm⟩

/-- Nothing but an accepted alert is to be recorded. -/
theorem accepts_of_recording (h : d.Does base s) {work : Work} {m : Metric} {rest : List Metric}
    {time : Instant} (ha : d.after = .check (.recording work m rest time)) : d.Accepts m time := by
  obtain ⟨c, hb, moved⟩ := h.movedTo ha
  obtain ⟨call, answer, rfl, he, hout⟩ := moved.awaiting_of_recording
  exact ⟨work, rest, call, answer, hb, he, hout⟩

theorem examining_of_awaiting (h : d.Does base s) {work : Work} {m : Metric} {rest : List Metric}
    {time : Instant} {call : Http.Call} (ha : d.after = .check (.awaiting work m rest time call)) :
    d.before = .check (.examining work m rest) ∧ (s.shared.alerts.get m).active = false := by
  obtain ⟨c, hb, moved⟩ := h.movedTo ha
  obtain ⟨rfl, hinactive⟩ := moved.examining_of_awaiting
  rw [h.found] at hinactive
  exact ⟨hb, hinactive⟩

theorem collecting_of_awaiting (h : d.Does base s) {call : Http.Call}
    (ha : d.after = .notice (.awaiting call)) :
    ∃ config update, d.before = .notice (.collecting config update) := by
  obtain ⟨n, hb, moved⟩ := (ha ▸ h.taskMoved).notice_to
  obtain ⟨config, update, rfl⟩ := moved.collecting_of_awaiting
  exact ⟨config, update, hb⟩

end Does

end Deed

/-! ## Runs -/

theorem getElem?_snoc {α : Type} {l : List α} {a b : α} {k : Nat} :
    (l ++ [a])[k]? = some b ↔ l[k]? = some b ∨ k = l.length ∧ a = b := by
  rw [List.getElem?_append]
  split
  · next hlt =>
    constructor
    · exact .inl
    · rintro (h | ⟨rfl, -⟩)
      · exact h
      · omega
  · next hge =>
    have hout : l[k]? = none := List.getElem?_eq_none (by omega)
    rw [hout, List.getElem?_singleton]
    by_cases hk : k = l.length
    · simp [hk]
    · rw [if_neg (by omega)]
      simp [hk]

theorem getElem?_snoc_of_getElem? {α : Type} {l : List α} {a b : α} {k : Nat}
    (h : l[k]? = some b) : (l ++ [a])[k]? = some b :=
  getElem?_snoc.mpr (.inl h)

theorem lt_of_getElem? {α : Type} {l : List α} {b : α} {k : Nat} (h : l[k]? = some b) :
    k < l.length :=
  (List.getElem?_eq_some_iff.mp h).1

theorem getElem?_take_iff {α : Type} {l : List α} {b : α} {n k : Nat} :
    (l.take n)[k]? = some b ↔ k < n ∧ l[k]? = some b := by
  rw [List.getElem?_take]
  split
  · next hk => exact ⟨fun h => ⟨hk, h⟩, And.right⟩
  · next hk => exact ⟨nofun, fun h => absurd h.1 hk⟩

namespace System

/-- The systems that a manager can come to, with the deeds done on the way, while every system
on the way has a property. -/
inductive Run (base : String) (config : TelegramConfig) (ok : System → Prop) :
    System → List Deed → Prop
  | initial (fine : ok (.initial config)) : Run base config ok (.initial config) []
  | begins {s : System} {log : List Deed} (run : Run base config ok s log) (t : Task)
      (fresh : t.isFresh = true) (fine : ok ⟨s.shared, s.tasks ++ [t]⟩) :
      Run base config ok ⟨s.shared, s.tasks ++ [t]⟩ log
  | steps {s : System} {log : List Deed} (run : Run base config ok s log) (d : Deed)
      (does : d.Does base s) (fine : ok (d.result s)) :
      Run base config ok (d.result s) (log ++ [d])

namespace Run

variable {base : String} {config : TelegramConfig} {ok : System → Prop} {s : System}
  {log : List Deed}

theorem fine (run : Run base config ok s log) : ok s := by
  cases run with
  | initial fine => exact fine
  | begins _ _ _ fine => exact fine
  | steps _ _ _ fine => exact fine

theorem reach (run : Run base config ok s log) : Reach base config s := by
  induction run with
  | initial => exact .initial
  | begins _ t fresh _ ih => exact ih.move (.begins _ t fresh)
  | steps _ d does _ ih =>
    refine ih.move (.steps _ d.task d.before d.after d.event d.left does.here ?_)
    rw [← does.found]
    exact does.moved

/-- The system in which a deed was done. -/
theorem systemAt (run : Run base config ok s log) {k : Nat} {d : Deed} (hd : log[k]? = some d) :
    ∃ s₀, Run base config ok s₀ (log.take k) ∧ d.Does base s₀ ∧ ok (d.result s₀) := by
  induction run with
  | initial => cases hd
  | begins _ _ _ _ ih => exact ih hd
  | @steps s₁ log₁ run₁ d₁ does₁ fine₁ ih =>
    obtain hold | ⟨rfl, rfl⟩ := getElem?_snoc.mp hd
    · rw [List.take_append_of_le_length (Nat.le_of_lt (lt_of_getElem? hold))]
      exact ih hold
    · rw [List.take_left]
      exact ⟨s₁, run₁, does₁, fine₁⟩

theorem task_lt (run : Run base config ok s log) {k : Nat} {d : Deed} (hd : log[k]? = some d) :
    d.task < s.tasks.length := by
  induction run with
  | initial => cases hd
  | begins _ t _ _ ih =>
    have hlt := ih hd
    rw [List.length_append]
    omega
  | steps _ d₁ does₁ _ ih =>
    rw [Deed.result, List.length_set]
    obtain hold | ⟨-, rfl⟩ := getElem?_snoc.mp hd
    · exact ih hold
    · exact lt_of_getElem? does₁.here

theorem copied (run : Run base config ok s log) {i : Nat} {t : Task} (ht : s.tasks[i]? = some t)
    (hw : t.isUnderWay = true) :
    ∃ (p : Nat) (c : Deed), log[p]? = some c ∧ c.task = i ∧ c.Copies := by
  induction run generalizing t with
  | initial => cases ht
  | begins _ t₁ fresh _ ih =>
    obtain hold | ⟨-, rfl⟩ := getElem?_snoc.mp ht
    · exact ih hold hw
    · rw [Task.isUnderWay_fresh fresh] at hw
      cases hw
  | @steps s₁ log₁ run₁ d does _ ih =>
    have extend : (∃ (p : Nat) (c : Deed), log₁[p]? = some c ∧ c.task = i ∧ c.Copies) →
        ∃ (p : Nat) (c : Deed), (log₁ ++ [d])[p]? = some c ∧ c.task = i ∧ c.Copies := by
      rintro ⟨p, c, hp, hc⟩
      exact ⟨p, c, getElem?_snoc_of_getElem? hp, hc⟩
    obtain ⟨rfl, rfl⟩ | ⟨-, hold⟩ := does.tasks_result ht
    · obtain hbefore | hcopy := does.underWay_before hw
      · exact extend (ih does.here hbefore)
      · exact ⟨log₁.length, d, getElem?_snoc.mpr (.inr ⟨rfl, rfl⟩), rfl, hcopy⟩
    · exact extend (ih hold hw)

theorem switched_since (run : Run base config ok s log) {p : Nat} {d : Deed}
    (hd : log[p]? = some d) :
    s.shared.config.enabled = d.left.config.enabled ∨
      ∃ (k : Nat) (f : Deed), p < k ∧ log[k]? = some f ∧ f.Switches s.shared.config.enabled := by
  induction run with
  | initial => cases hd
  | begins _ _ _ _ ih => exact ih hd
  | @steps s₁ log₁ run₁ d₁ does₁ _ ih =>
    show d₁.left.config.enabled = _ ∨ ∃ (k : Nat) (f : Deed), p < k ∧ (log₁ ++ [d₁])[k]? = some f ∧
      f.Switches d₁.left.config.enabled
    obtain hold | ⟨rfl, rfl⟩ := getElem?_snoc.mp hd
    · obtain hsame | ⟨new, hb, hleft⟩ := does₁.enabled_left
      · rw [hsame, does₁.found]
        obtain heq | ⟨k, f, hpk, hf, hsw⟩ := ih hold
        · exact .inl heq
        · exact .inr ⟨k, f, hpk, getElem?_snoc_of_getElem? hf, hsw⟩
      · refine .inr ⟨log₁.length, d₁, lt_of_getElem? hold, getElem?_snoc.mpr (.inr ⟨rfl, rfl⟩), ?_⟩
        exact ⟨new, hb, hleft.symm⟩
    · exact .inl rfl

/-- After settings were copied, notifications are off only if an update switched them off. -/
theorem disabled_since_copy (run : Run base config ok s log) {p : Nat} {c : Deed}
    (hp : log[p]? = some c) (hc : c.Copies) (off : s.shared.config.enabled = false) :
    ∃ (k : Nat) (f : Deed), p < k ∧ log[k]? = some f ∧ f.Switches false := by
  obtain ⟨s₀, -, does, -⟩ := run.systemAt hp
  obtain ⟨hon, hleft⟩ := does.deliverable_of_copies hc
  rw [TelegramConfig.isDeliverable, Bool.and_eq_true] at hon
  obtain heq | ⟨k, f, hpk, hf, hsw⟩ := run.switched_since hp
  · rw [hleft, hon.1, off] at heq
    cases heq
  · rw [off] at hsw
    exact ⟨k, f, hpk, hf, hsw⟩

end Run

/-- Every system that can be reached has a history. -/
theorem Reach.run {base : String} {config : TelegramConfig} {s : System}
    (h : Reach base config s) : ∃ log, Run base config (fun _ => True) s log := by
  induction h with
  | initial => exact ⟨[], .initial trivial⟩
  | move _ hmove ih =>
    obtain ⟨log, run⟩ := ih
    cases hmove with
    | begins t fresh => exact ⟨log, run.begins t fresh trivial⟩
    | steps i t t' e shared here moved =>
      exact ⟨_, run.steps ⟨i, e, _, t, shared, t'⟩ ⟨rfl, here, moved⟩ trivial⟩

end System

end HostAlert.Manager
