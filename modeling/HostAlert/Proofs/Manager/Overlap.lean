import HostAlert.Proofs.Manager.Copy
import HostAlert.Proofs.Manager.DeliveryTime
import HostAlert.Proofs.Manager.Disabling

/-!
# Alerts of checks that overlap

A check reads the alert state of a metric, sends its alert and records the delivery in three
separate steps. While notifications are on and the readings of the metric stay high, nothing ends
an alert that was recorded, so no request follows it; two accepted alerts therefore come from two
checks that were both under way before the first was recorded (`System.Run.alerts_overlap`). Such
checks do send two alerts for one breach (`Sample.alerts_twice`).
-/

namespace HostAlert.Manager

/-- The check is about to end the alert of the metric. -/
def Check.Clears (m : Metric) : Check → Prop
  | clearing _ n _ => n = m
  | _ => False

theorem Check.not_clears_proceed (work : Work) (rest : List Metric) (m : Metric) :
    ¬ (proceed work rest).Clears m := by
  cases rest <;> exact not_false

/-- An alert is ended after an evaluation that drops the active flag. -/
theorem Check.Moved.clears_before {base : String} {s s' : Shared} {c c' : Check} {e : Event}
    {m : Metric} (h : Moved base s c e s' c') (hc : c'.Clears m) :
    ∃ work rest now, c = .examining work m rest ∧
      (evaluation work m (s.alerts.get m) now).clears = true := by
  cases h with
  | copies | declines | sends | accepts => exact hc.elim
  | collects | passes | fails | clears | refuses | records =>
    exact (not_clears_proceed _ _ m hc).elim
  | lowers work n rest now attempt low =>
    obtain rfl : n = m := hc
    exact ⟨work, rest, now, rfl, low⟩

/-- A reading of the metric is at or above a positive threshold. -/
def Deed.High (m : Metric) (d : Deed) : Prop :=
  ∀ work, d.Examines work m →
    0 < work.config.threshold m ∧ work.config.threshold m ≤ m.reading work.info

namespace System.Run

variable {base : String} {config : TelegramConfig} {ok : System → Prop} {s : System}
  {log : List Deed} {m : Metric}

theorem pending_or_recorded (run : Run base config ok s log) {i : Nat} {a : Deed}
    {time : Instant} (ha : log[i]? = some a) (hacc : a.Accepts m time) :
    Pending s m a.task time ∨
      ∃ (r : Nat) (d : Deed), i < r ∧ log[r]? = some d ∧ d.task = a.task ∧ d.Records m time := by
  induction run with
  | initial => cases ha
  | begins _ t fresh _ ih =>
    obtain ⟨work, rest, ht⟩ | hrec := ih ha
    · exact .inl ⟨work, rest, getElem?_snoc_of_getElem? ht⟩
    · exact .inr hrec
  | @steps s₁ log₁ run₁ d does _ ih =>
    obtain hold | ⟨rfl, rfl⟩ := getElem?_snoc.mp ha
    · obtain ⟨work, rest, ht⟩ | ⟨r, d₀, hir, hd₀, htask, hrec⟩ := ih hold
      · by_cases hown : a.task = d.task
        · have hb : d.before = .check (.recording work m rest time) :=
            Option.some.inj (does.here.symm.trans (hown ▸ ht))
          exact .inr ⟨log₁.length, d, lt_of_getElem? hold, getElem?_snoc.mpr (.inr ⟨rfl, rfl⟩),
            hown.symm, work, rest, hb⟩
        · refine .inl ⟨work, rest, ?_⟩
          rw [Deed.Does.tasks_other hown]
          exact ht
      · exact .inr ⟨r, d₀, hir, getElem?_snoc_of_getElem? hd₀, htask, hrec⟩
    · obtain ⟨work, rest, hafter⟩ := does.recording_of_accepts hacc
      refine .inl ⟨work, rest, ?_⟩
      rw [does.tasks_self, hafter]

/-- A check with an alert on the way has sent its request and done nothing since. -/
theorem awaiting_since (run : Run base config ok s log) {j : Nat} {work : Work}
    {rest : List Metric} {time : Instant} {call : Http.Call}
    (hj : s.tasks[j]? = some (.check (.awaiting work m rest time call))) :
    ∃ (q : Nat) (x : Deed), log[q]? = some x ∧ x.Requests (some m) ∧
      ∀ (k : Nat) (d : Deed), q < k → log[k]? = some d →
        ∃ s₀, Run base config ok s₀ (log.take k) ∧ d.Does base s₀ ∧
          s₀.tasks[j]? = some (.check (.awaiting work m rest time call)) := by
  induction run with
  | initial => cases hj
  | begins _ t fresh _ ih =>
    obtain hold | ⟨-, rfl⟩ := getElem?_snoc.mp hj
    · exact ih hold
    · cases fresh
  | @steps s₁ log₁ run₁ d₁ does _ ih =>
    obtain ⟨rfl, heq⟩ | ⟨-, hold⟩ := does.tasks_result hj
    · refine ⟨log₁.length, d₁, getElem?_snoc.mpr (.inr ⟨rfl, rfl⟩),
        ⟨work, rest, time, call, heq.symm⟩, fun k d hk hd => ?_⟩
      have hlt := lt_of_getElem? hd
      rw [List.length_append, List.length_singleton] at hlt
      omega
    · obtain ⟨q, x, hq, hreq, hsince⟩ := ih hold
      refine ⟨q, x, getElem?_snoc_of_getElem? hq, hreq, fun k d hk hd => ?_⟩
      obtain hd | ⟨rfl, rfl⟩ := getElem?_snoc.mp hd
      · rw [List.take_append_of_le_length (Nat.le_of_lt (lt_of_getElem? hd))]
        exact hsince k d hk hd
      · rw [List.take_left]
        exact ⟨s₁, run₁, does, hold⟩

/-! ### While notifications are on and readings are high -/

theorem enabled_of_on (run : Run base config ok s log) (enabled : config.enabled = true)
    (on : ∀ d ∈ log, ¬ d.Switches false) : s.shared.config.enabled = true := by
  induction run with
  | initial => exact enabled
  | begins _ _ _ _ ih => exact ih on
  | steps _ d does _ ih =>
    obtain hsame | ⟨new, hb, hleft⟩ := does.enabled_left
    · rw [Deed.result, hsame, does.found]
      exact ih fun f hf => on f (List.mem_append_left _ hf)
    · rw [Deed.result, hleft]
      cases hnew : new.enabled with
      | true => rfl
      | false => exact (on d List.mem_concat_self ⟨new, hb, hnew⟩).elim

theorem not_clears (run : Run base config ok s log)
    (high : ∀ d ∈ log, d.High m)
    {j : Nat} {c : Check} (hj : s.tasks[j]? = some (.check c)) : ¬ c.Clears m := by
  induction run generalizing j c with
  | initial => cases hj
  | begins _ t fresh _ ih =>
    obtain hold | ⟨-, rfl⟩ := getElem?_snoc.mp hj
    · exact ih high hold
    · cases c <;> first | exact not_false | cases fresh
  | @steps s₁ log₁ run₁ d does _ ih =>
    obtain ⟨-, heq⟩ | ⟨-, hold⟩ := does.tasks_result hj
    · obtain ⟨c₀, hb, moved⟩ := does.movedTo heq.symm
      intro hc
      obtain ⟨work, rest, now, rfl, hclears⟩ := moved.clears_before hc
      obtain ⟨ht, hv⟩ := high d List.mem_concat_self work ⟨rest, hb⟩
      rw [Check.evaluation, Evaluation.clears_eq_false_of_le ht hv] at hclears
      cases hclears
    · exact ih (fun f hf => high f (List.mem_append_left _ hf)) hold

theorem active_of_recorded (run : Run base config ok s log) (enabled : config.enabled = true)
    (on : ∀ d ∈ log, ¬ d.Switches false)
    (high : ∀ d ∈ log, d.High m)
    {r : Nat} {d : Deed} {time : Instant} (hd : log[r]? = some d) (hrec : d.Records m time) :
    (s.shared.alerts.get m).active = true := by
  induction run with
  | initial => cases hd
  | begins _ _ _ _ ih => exact ih on high hd
  | @steps s₁ log₁ run₁ d₁ does _ ih =>
    have on₁ : ∀ d ∈ log₁, ¬ d.Switches false := fun f hf => on f (List.mem_append_left _ hf)
    have hon : d₁.found.config.enabled = true := by
      rw [does.found]
      exact run₁.enabled_of_on enabled on₁
    show (d₁.left.alerts.get m).active = true
    obtain hold | ⟨-, rfl⟩ := getElem?_snoc.mp hd
    · have hactive := ih on₁ (fun f hf => high f (List.mem_append_left _ hf)) hold
      rw [← does.found] at hactive
      obtain heq | ⟨new, hb, heq⟩ | ⟨work, n, rest, hb, heq⟩ | ⟨work, n, rest, t, -, heq⟩ :=
        does.taskMoved.shared_cases
      · rw [heq]
        exact hactive
      · have hnew : new.enabled = true := by
          cases hnew : new.enabled with
          | true => rfl
          | false => exact (on d₁ List.mem_concat_self ⟨new, hb, hnew⟩).elim
        rw [heq, Shared.replaceConfig, hnew, if_pos rfl]
        exact hactive
      · have hhere : s₁.tasks[d₁.task]? = some (.check (.clearing work n rest)) :=
          hb ▸ does.here
        have hne : ¬ n = m :=
          run₁.not_clears (fun f hf => high f (List.mem_append_left _ hf)) hhere
        rw [heq, Shared.clearAlert, AlertStates.get_clear, if_neg hne]
        exact hactive
      · rw [heq, Shared.recordDelivery, hon, if_pos rfl, AlertStates.get_markActive]
        split
        · rfl
        · exact hactive
    · obtain ⟨work, rest, hb⟩ := hrec
      obtain ⟨c', -, moved⟩ := does.movedFrom hb
      rw [moved.of_recording.1, Shared.recordDelivery, hon, if_pos rfl,
        AlertStates.get_markActive, if_pos rfl]

/-- No request of the metric follows a recorded one. -/
theorem not_requests_of_recorded (run : Run base config ok s log)
    (enabled : config.enabled = true) (on : ∀ d ∈ log, ¬ d.Switches false)
    (high : ∀ d ∈ log, d.High m)
    {r k : Nat} {d x : Deed} {time : Instant} (hd : log[r]? = some d) (hrec : d.Records m time)
    (hrk : r < k) (hx : log[k]? = some x) : ¬ x.Requests (some m) := by
  rintro ⟨work, rest, t, call, hafter⟩
  obtain ⟨s₀, run₀, does, -⟩ := run.systemAt hx
  obtain ⟨-, hinactive⟩ := does.examining_of_awaiting hafter
  have hactive := run₀.active_of_recorded enabled (fun f hf => on f (List.mem_of_mem_take hf))
    (fun f hf => high f (List.mem_of_mem_take hf)) (getElem?_take_iff.mpr ⟨hrk, hd⟩) hrec
  rw [hinactive] at hactive
  cases hactive

/-- Two accepted alerts of the metric come from different checks that were under way together. -/
theorem together_of_accepted (run : Run base config ok s log) (enabled : config.enabled = true)
    (on : ∀ d ∈ log, ¬ d.Switches false)
    (high : ∀ d ∈ log, d.High m)
    {i j : Nat} {a b : Deed} {first second : Instant} (hij : i < j) (ha : log[i]? = some a)
    (hb : log[j]? = some b) (ha' : a.Accepts m first) (hb' : b.Accepts m second) :
    a.task ≠ b.task ∧ ∃ (k : Nat) (s₀ : System), k ≤ j ∧ Run base config ok s₀ (log.take k) ∧
      ∃ c d : Check, s₀.tasks[a.task]? = some (.check c) ∧ s₀.tasks[b.task]? = some (.check d) ∧
        c.isUnderWay = true ∧ d.isUnderWay = true := by
  obtain ⟨s₁, run₁, does, -⟩ := run.systemAt hb
  obtain ⟨work, rest, call, answer, hbefore, -, -⟩ := hb'
  have hhere : s₁.tasks[b.task]? = some (.check (.awaiting work m rest second call)) :=
    hbefore ▸ does.here
  -- the later alert is on its way when the earlier one is recorded
  have apart (s₀ : System) {work' : Work} {rest' : List Metric}
      (hrec : s₀.tasks[a.task]? = some (.check (.recording work' m rest' first)))
      (hwait : s₀.tasks[b.task]? = some (.check (.awaiting work m rest second call))) :
      a.task ≠ b.task := by
    intro htask
    rw [htask, hwait] at hrec
    cases hrec
  obtain ⟨work', rest', hpend⟩ | ⟨r, d, -, hd, htask, work', rest', hrec⟩ :=
    run₁.pending_or_recorded (getElem?_take_iff.mpr ⟨hij, ha⟩) ha'
  · exact ⟨apart s₁ hpend hhere, j, s₁, Nat.le_refl j, run₁, _, _, hpend, hhere, rfl, rfl⟩
  · obtain ⟨q, x, hx, hreq, hsince⟩ := run₁.awaiting_since hhere
    have hqr : q < r := by
      obtain hlt | rfl | hgt := Nat.lt_trichotomy q r
      · exact hlt
      · obtain rfl : x = d := Option.some.inj (hx.symm.trans hd)
        obtain ⟨s₂, -, does₂, -⟩ := run₁.systemAt hx
        obtain ⟨work₂, rest₂, t₂, call₂, hafter₂⟩ := hreq
        rw [(does₂.examining_of_awaiting hafter₂).1] at hrec
        cases hrec
      · exact absurd hreq (run₁.not_requests_of_recorded enabled
          (fun f hf => on f (List.mem_of_mem_take hf))
          (fun f hf => high f (List.mem_of_mem_take hf)) hd ⟨work', rest', hrec⟩ hgt hx)
    obtain ⟨s₀, run₀, does₀, hwait⟩ := hsince r d hqr hd
    have hrec₀ : s₀.tasks[a.task]? = some (.check (.recording work' m rest' first)) := by
      rw [← htask, does₀.here, hrec]
    have hrj : r < j := (getElem?_take_iff.mp hd).1
    rw [List.take_take, Nat.min_eq_left (Nat.le_of_lt hrj)] at run₀
    exact ⟨apart s₀ hrec₀ hwait, r, s₀, Nat.le_of_lt hrj, run₀, _, _, hrec₀, hwait, rfl, rfl⟩

/-- While notifications are on and the readings of a metric stay at or above a positive threshold,
no request follows a recorded alert of it, and two accepted alerts come from different checks that
were under way together. So checks that do not overlap deliver a single alert for the breach. -/
theorem alerts_overlap (run : Run base config ok s log) (enabled : config.enabled = true)
    (on : ∀ d ∈ log, ¬ d.Switches false)
    (high : ∀ d ∈ log, d.High m) :
    (∀ (r k : Nat) (d x : Deed) (time : Instant), log[r]? = some d → d.Records m time → r < k →
      log[k]? = some x → ¬ x.Requests (some m)) ∧
    (∀ (i j : Nat) (a b : Deed) (first second : Instant), i < j → log[i]? = some a →
      log[j]? = some b → a.Accepts m first → b.Accepts m second →
      a.task ≠ b.task ∧ ∃ (k : Nat) (s₀ : System), k ≤ j ∧ Run base config ok s₀ (log.take k) ∧
        ∃ c d : Check, s₀.tasks[a.task]? = some (.check c) ∧
          s₀.tasks[b.task]? = some (.check d) ∧ c.isUnderWay = true ∧ d.isUnderWay = true) ∧
    ((∀ s, ok s → s.Serial) → ∀ (i j : Nat) (a b : Deed) (first second : Instant),
      log[i]? = some a → log[j]? = some b → a.Accepts m first → b.Accepts m second → i = j) := by
  refine ⟨fun r k d x time hd hrec hrk hx =>
      run.not_requests_of_recorded enabled on high hd hrec hrk hx,
    fun i j a b first second hij ha hb ha' hb' =>
      run.together_of_accepted enabled on high hij ha hb ha' hb', ?_⟩
  intro serial i j a b first second ha hb ha' hb'
  have single : ∀ {i j : Nat} {a b : Deed} {first second : Instant}, log[i]? = some a →
      log[j]? = some b → a.Accepts m first → b.Accepts m second → ¬ i < j := by
    intro i j a b first second ha hb ha' hb' hij
    obtain ⟨hne, k, s₀, -, run₀, c, d, hc, hd, hcw, hdw⟩ :=
      run.together_of_accepted enabled on high hij ha hb ha' hb'
    exact hne ((serial s₀ run₀.fine).unique hc hd hcw hdw)
  have hij := single ha hb ha' hb'
  have hji := single hb ha hb' ha'
  omega

end System.Run

namespace Sample

/-- Two checks begin before either alert is recorded: both alerts of the CPU are accepted. -/
theorem run_overlapping : ∃ (s : System) (log : List Deed) (a b : Deed),
    System.Run base settings (fun _ => True) s log ∧ (∀ d ∈ log, ∀ new, d.before ≠ .update new) ∧
      (∀ d ∈ log, d.High .cpu) ∧ log[6]? = some a ∧ a.Accepts .cpu time ∧ log[7]? = some b ∧
      b.Accepts .cpu time := by
  obtain ⟨call, sent⟩ := run_sent 1
  obtain ⟨call', hcall⟩ := exists_plan (readings 1) .cpu
  have sends : Check.Moved base (.initial settings) (.examining (work 1) .cpu [.memory, .disk])
      (.enter time time) (.initial settings)
      (.awaiting (work 1) .cpu [.memory, .disk] time call') := by
    refine .sends (work 1) .cpu [.memory, .disk] time time ?_ call' hcall
    exact evaluation_starts 1
  have first : System.Run base settings (fun _ => True) _ _ := sent.mono fun _ _ => trivial
  have begun := first.begins (.check .begun) rfl trivial
  have copied := begun.checks 1 rfl (.copies time time deliverable) trivial
  have collected := copied.checks 1 rfl (.collects settings (readings 1)) trivial
  have second := collected.checks 1 rfl sends trivial
  have accept := second.checks 0 rfl
    (.accepts (work 1) .cpu [.memory, .disk] time call accepted accepted_ok) trivial
  have accept' := accept.checks 1 rfl
    (.accepts (work 1) .cpu [.memory, .disk] time call' accepted accepted_ok) trivial
  have high : (0 : Float) < (work 1).config.threshold .cpu ∧
      (work 1).config.threshold .cpu ≤ Metric.cpu.reading (work 1).info := by
    decide +kernel
  refine ⟨_, _, _, _, accept', ?_, ?_, rfl,
    ⟨work 1, [.memory, .disk], call, accepted, rfl, rfl, accepted_ok⟩, rfl,
    ⟨work 1, [.memory, .disk], call', accepted, rfl, rfl, accepted_ok⟩⟩
  · simp [sending]
  · intro d hd w hexam
    have hwork : work 1 = w := by
      revert d
      simp [sending, Deed.Examines, Check.proceed, Metric.all, work]
    rw [← hwork]
    exact high

/-- Checks that overlap may deliver more than one alert for a breach. -/
theorem alerts_twice : ¬ ∀ (base : String) (config : TelegramConfig) (s : System)
    (log : List Deed) (m : Metric), System.Run base config (fun _ => True) s log →
      config.enabled = true → (∀ d ∈ log, ∀ new, d.before ≠ .update new) →
      (∀ d ∈ log, d.High m) → ∀ (i j : Nat) (a b : Deed) (first second : Instant),
        log[i]? = some a → log[j]? = some b → a.Accepts m first → b.Accepts m second → i = j := by
  intro h
  obtain ⟨s, log, a, b, run, constant, high, ha, ha', hb, hb'⟩ := run_overlapping
  have hij := h base settings s log .cpu run rfl constant high 6 7 a b time time ha hb ha' hb'
  exact absurd hij (by decide)

theorem together_twice : ∃ (log : List Deed) (a b : Deed), log[6]? = some a ∧
    a.Accepts .cpu time ∧ log[7]? = some b ∧ b.Accepts .cpu time ∧ a.task ≠ b.task := by
  obtain ⟨s, log, a, b, run, constant, high, ha, ha', hb, hb'⟩ := run_overlapping
  have on : ∀ d ∈ log, ¬ d.Switches false := by
    rintro d hd ⟨new, hbefore, -⟩
    exact constant d hd new hbefore
  obtain ⟨-, together, -⟩ := System.Run.alerts_overlap run rfl on high
  exact ⟨log, a, b, ha, ha', hb, hb', (together 6 7 a b time time (by decide) ha hb ha' hb').1⟩

end Sample

end HostAlert.Manager
