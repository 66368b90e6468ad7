import HostAlert.Proofs.Manager.Schedule

/-!
# One alert for each breach

Where checks do not overlap, an accepted alert is followed by another one of its metric only after
a reset: notifications were switched off, or a check read a lowered value
(`System.Run.reset_between_alerts`). The invariant `Episodes` says of every accepted alert that it
was reset or still stands (`Standing`), and of an alert on the way that it was begun when all
earlier ones had been reset. An alert stands first in the check that is about to record it, and
then as the active flag of its metric; a check that reads the flag begins no other alert.
-/

namespace HostAlert.Manager

namespace Deed

/-- Notifications are switched off, or the metric is read and found lowered. -/
def Resets (d : Deed) (m : Metric) : Prop :=
  d.Switches false ∨ ∃ work, d.Examines work m ∧
    Evaluation.Lowered (m.reading work.info) (work.config.threshold m)

end Deed

/-- Whenever the task copied its settings before a position of the history, a reset of the metric
followed before the bound. -/
def ResetWithin (log : List Deed) (m : Metric) (position task bound : Nat) : Prop :=
  ∀ (p : Nat) (c : Deed), p < position → log[p]? = some c → c.task = task → c.Copies →
    ∃ (k : Nat) (f : Deed), p < k ∧ k < bound ∧ log[k]? = some f ∧ f.Resets m

namespace ResetWithin

variable {log : List Deed} {m : Metric} {position task bound bound' : Nat} {d : Deed}

theorem snoc (h : ResetWithin log m position task bound) (hp : position ≤ log.length)
    (hb : bound ≤ bound') : ResetWithin (log ++ [d]) m position task bound' := by
  intro p c hlt hc htask hcopy
  obtain hold | ⟨rfl, -⟩ := getElem?_snoc.mp hc
  · obtain ⟨k, f, hpk, hk, hf, hr⟩ := h p c hlt hold htask hcopy
    exact ⟨k, f, hpk, by omega, getElem?_snoc_of_getElem? hf, hr⟩
  · omega

theorem of_resets (hd : d.Resets m) (hp : position ≤ log.length) :
    ResetWithin (log ++ [d]) m position task (log.length + 1) := by
  intro p c hlt hc _ _
  exact ⟨log.length, d, by omega, by omega, getElem?_snoc.mpr (.inr ⟨rfl, rfl⟩), hd⟩

end ResetWithin

/-! ## Standing alerts -/

/-- The accepted alert of the task is about to be recorded while notifications are on, or the
metric is active and no check is about to change that. -/
def Standing (s : System) (m : Metric) (task : Nat) : Prop :=
  (s.shared.config.enabled = true ∧ ∃ work rest time,
    s.tasks[task]? = some (.check (.recording work m rest time))) ∨
  ((s.shared.alerts.get m).active = true ∧
    ∀ (j : Nat) (c : Check), s.tasks[j]? = some (.check c) → ¬ c.Handles m)

/-- A check ends an active metric or alerts it again only after it read a lowered value. -/
theorem Check.Moved.stays_active {base : String} {s s' : Shared} {c c' : Check} {e : Event}
    {m : Metric} (h : Check.Moved base s c e s' c') (active : (s.alerts.get m).active = true)
    (quiet : ¬ c.Handles m) :
    (∃ work rest, c = .examining work m rest ∧
      Evaluation.Lowered (m.reading work.info) (work.config.threshold m)) ∨
    ((s'.alerts.get m).active = true ∧ ¬ c'.Handles m) := by
  cases h with
  | copies | declines => exact .inr ⟨active, not_false⟩
  | collects | passes | fails | refuses =>
    exact .inr ⟨active, Check.not_handles_proceed _ _ m⟩
  | lowers work n rest now attempt low =>
    by_cases hnm : n = m
    · subst hnm
      exact .inl ⟨work, rest, rfl, Evaluation.lowered_of_clears low⟩
    · exact .inr ⟨active, hnm⟩
  | sends work n rest now attempt starts =>
    refine .inr ⟨active, ?_⟩
    rintro rfl
    -- an active metric does not start to exceed
    obtain ⟨-, -, -, hinactive, -⟩ := Evaluation.startsToExceed_iff.mp starts
    rw [active] at hinactive
    cases hinactive
  | clears work n rest =>
    have hnm : n ≠ m := quiet
    refine .inr ⟨?_, Check.not_handles_proceed _ _ m⟩
    rw [Shared.clearAlert, AlertStates.get_clear, if_neg hnm]
    exact active
  | accepts => exact .inr ⟨active, quiet⟩
  | records work n rest time =>
    have hnm : n ≠ m := quiet
    refine .inr ⟨?_, Check.not_handles_proceed _ _ m⟩
    rw [Shared.recordDelivery]
    split
    · rw [AlertStates.get_markActive, if_neg hnm]
      exact active
    · exact active

/-- An active metric stays active and nothing is done about it, unless it is reset. -/
theorem Deed.Does.stays_active {base : String} {s : System} {d : Deed} {m : Metric}
    (does : d.Does base s) (active : (s.shared.alerts.get m).active = true)
    (quiet : ∀ c, d.before = .check c → ¬ c.Handles m) :
    d.Resets m ∨
      ((d.left.alerts.get m).active = true ∧ ∀ c, d.after = .check c → ¬ c.Handles m) := by
  have hm := does.taskMoved
  rw [← does.found] at active
  rw [Deed.Resets, Deed.Switches]
  simp only [Deed.Examines]
  generalize d.before = before at hm quiet ⊢
  generalize d.event = e at hm
  generalize d.left = left at hm ⊢
  generalize d.after = after at hm ⊢
  cases hm with
  | checks moved =>
    obtain ⟨work, rest, rfl, hlow⟩ | ⟨hstays, hquiet⟩ := moved.stays_active active (quiet _ rfl)
    · exact .inl (.inr ⟨work, ⟨rest, rfl⟩, hlow⟩)
    · refine .inr ⟨hstays, fun c hc => ?_⟩
      cases hc
      exact hquiet
  | notifies | tries => exact .inr ⟨active, fun _ hc => Task.noConfusion hc⟩
  | replaces config =>
    cases hon : config.enabled with
    | false => exact .inl (.inl ⟨config, rfl, hon⟩)
    | true =>
      rw [Shared.replaceConfig, hon, if_pos rfl]
      exact .inr ⟨active, fun _ hc => Task.noConfusion hc⟩

namespace Standing

variable {base : String} {s : System} {m : Metric} {task : Nat} {d : Deed}

theorem begins (h : Standing s m task) {t : Task} (fresh : t.isFresh = true) :
    Standing ⟨s.shared, s.tasks ++ [t]⟩ m task := by
  obtain ⟨hon, work, rest, time, ht⟩ | ⟨hactive, hquiet⟩ := h
  · exact .inl ⟨hon, work, rest, time, getElem?_snoc_of_getElem? ht⟩
  · refine .inr ⟨hactive, fun j c hc => ?_⟩
    obtain hold | ⟨-, rfl⟩ := getElem?_snoc.mp hc
    · exact hquiet j c hold
    · intro hm
      have hbusy : (Task.check c).isUnderWay = true := Check.isUnderWay_of_handles hm
      rw [Task.isUnderWay_fresh fresh] at hbusy
      cases hbusy

/-- An alert that is recorded while notifications are on is an active metric. -/
theorem of_records (serial : s.Serial) (does : d.Does base s)
    (hon : s.shared.config.enabled = true) {work : Work} {rest : List Metric} {time : Instant}
    (hb : d.before = .check (.recording work m rest time)) : Standing (d.result s) m task := by
  obtain ⟨c', hafter, moved⟩ := does.movedFrom hb
  obtain ⟨hleft, rfl⟩ := moved.of_recording
  rw [does.found] at hleft
  refine .inr ⟨?_, fun j c hc hh => ?_⟩
  · show (d.left.alerts.get m).active = true
    rw [hleft, Shared.recordDelivery, hon, if_pos rfl, AlertStates.get_markActive, if_pos rfl]
  · obtain ⟨-, heq⟩ | ⟨hj, hold⟩ := does.tasks_result hc
    · rw [hafter] at heq
      cases heq
      exact Check.not_handles_proceed work rest m hh
    · -- two checks would be under way
      exact hj (serial.unique hold (hb ▸ does.here) (Check.isUnderWay_of_handles hh) rfl)

theorem step (h : Standing s m task) (serial : s.Serial) (does : d.Does base s) :
    d.Resets m ∨ Standing (d.result s) m task := by
  obtain ⟨hon, work, rest, time, ht⟩ | ⟨hactive, hquiet⟩ := h
  · by_cases htask : task = d.task
    · subst htask
      have hb : d.before = .check (.recording work m rest time) :=
        Option.some.inj (does.here.symm.trans ht)
      exact .inr (of_records serial does hon hb)
    · obtain hsame | ⟨config, hb, hleft⟩ := does.enabled_left
      · refine .inr (.inl ⟨?_, work, rest, time, ?_⟩)
        · rw [does.found, hon] at hsame
          exact hsame
        · rw [Deed.Does.tasks_other htask]
          exact ht
      · cases hoff : config.enabled with
        | false => exact .inl (.inl ⟨config, hb, hoff⟩)
        | true =>
          refine .inr (.inl ⟨hleft.trans hoff, work, rest, time, ?_⟩)
          rw [Deed.Does.tasks_other htask]
          exact ht
  · have hquietBefore : ∀ c, d.before = .check c → ¬ c.Handles m := by
      intro c hc
      exact hquiet d.task c (hc ▸ does.here)
    obtain hreset | ⟨hstays, hafter⟩ := does.stays_active hactive hquietBefore
    · exact .inl hreset
    · refine .inr (.inr ⟨hstays, fun j c hc => ?_⟩)
      obtain ⟨-, heq⟩ | ⟨-, hold⟩ := does.tasks_result hc
      · exact hafter c heq.symm
      · exact hquiet j c hold

end Standing

/-! ## The invariant -/

/-- What the history tells about the alerts of a metric. -/
structure Episodes (s : System) (log : List Deed) (m : Metric) : Prop where
  /-- Every accepted alert was reset or still stands. -/
  accepted : ∀ (i : Nat) (a : Deed) (time : Instant), log[i]? = some a → a.Accepts m time →
    ResetWithin log m i a.task log.length ∨ Standing s m a.task
  /-- A check with an alert on the way has read the state after all accepted ones were reset. -/
  awaiting : ∀ (j : Nat) (work : Work) (rest : List Metric) (time : Instant) (call : Http.Call),
    s.tasks[j]? = some (.check (.awaiting work m rest time call)) →
    ∃ (e : Nat) (x : Deed), log[e]? = some x ∧ x.task = j ∧ (∃ work, x.Examines work m) ∧
      ∀ (i : Nat) (a : Deed) (time : Instant), log[i]? = some a → a.Accepts m time →
        ResetWithin log m i a.task e

namespace Episodes

variable {base : String} {config : TelegramConfig} {s : System} {log : List Deed} {m : Metric}
  {d : Deed}

theorem begins (h : Episodes s log m) {t : Task} (fresh : t.isFresh = true) :
    Episodes ⟨s.shared, s.tasks ++ [t]⟩ log m where
  accepted i a time ha hacc := (h.accepted i a time ha hacc).imp id fun st => st.begins fresh
  awaiting j work rest time call hj := by
    obtain hold | ⟨-, rfl⟩ := getElem?_snoc.mp hj
    · exact h.awaiting j work rest time call hold
    · cases fresh

/-- An alert that was just accepted stands, unless notifications were switched off while it was
on its way. -/
theorem accepted_now (run : System.Run base config System.Serial s log) (does : d.Does base s)
    {time : Instant} (hacc : d.Accepts m time) :
    ResetWithin (log ++ [d]) m log.length d.task (log.length + 1) ∨
      Standing (d.result s) m d.task := by
  obtain ⟨work, rest, hafter⟩ := does.recording_of_accepts hacc
  have hleft : d.left.config.enabled = s.shared.config.enabled := by
    obtain ⟨work', rest', call, answer, hb, -, -⟩ := hacc
    obtain hsame | ⟨new, hb', -⟩ := does.enabled_left
    · rw [hsame, does.found]
    · rw [hb] at hb'
      cases hb'
  cases hon : s.shared.config.enabled with
  | true =>
    refine .inr (.inl ⟨hleft.trans hon, work, rest, time, ?_⟩)
    rw [does.tasks_self, hafter]
  | false =>
    refine .inl fun p c hp hc _ hcopy => ?_
    obtain hold | ⟨rfl, -⟩ := getElem?_snoc.mp hc
    · obtain ⟨k, f, hpk, hf, hsw⟩ := run.disabled_since_copy hold hcopy hon
      have hk := lt_of_getElem? hf
      exact ⟨k, f, hpk, by omega, getElem?_snoc_of_getElem? hf, .inl hsw⟩
    · omega

/-- A check begins an alert only when no accepted one stands. -/
theorem sends_after_resets (h : Episodes s log m) (serial : s.Serial) (does : d.Does base s)
    {work : Work} {rest : List Metric} (hb : d.before = .check (.examining work m rest))
    (hinactive : (s.shared.alerts.get m).active = false) {i : Nat} {a : Deed} {time : Instant}
    (ha : log[i]? = some a) (hacc : a.Accepts m time) :
    ResetWithin log m i a.task log.length := by
  obtain hreset | ⟨-, work', rest', time', hrec⟩ | ⟨hactive, -⟩ := h.accepted i a time ha hacc
  · exact hreset
  · -- two checks would be under way
    have hhere : s.tasks[d.task]? = some (.check (.examining work m rest)) := hb ▸ does.here
    have htask := serial.unique hrec hhere rfl rfl
    rw [htask, hhere] at hrec
    cases hrec
  · rw [hactive] at hinactive
    cases hinactive

theorem step (h : Episodes s log m) (run : System.Run base config System.Serial s log)
    (does : d.Does base s) : Episodes (d.result s) (log ++ [d]) m where
  accepted i a time ha hacc := by
    rw [List.length_append, List.length_singleton]
    obtain hold | ⟨rfl, rfl⟩ := getElem?_snoc.mp ha
    · have hi := Nat.le_of_lt (lt_of_getElem? hold)
      obtain hreset | hstands := h.accepted i a time hold hacc
      · exact .inl (hreset.snoc hi (Nat.le_succ _))
      · exact (hstands.step run.fine does).imp_left fun hr => .of_resets hr hi
    · exact accepted_now run does hacc
  awaiting j work rest time call hj := by
    obtain ⟨rfl, heq⟩ | ⟨hj', hold⟩ := does.tasks_result hj
    · obtain ⟨hb, hinactive⟩ := does.examining_of_awaiting heq.symm
      refine ⟨log.length, d, getElem?_snoc.mpr (.inr ⟨rfl, rfl⟩), rfl, ⟨work, rest, hb⟩, ?_⟩
      intro i a time' ha hacc
      obtain hold | ⟨rfl, rfl⟩ := getElem?_snoc.mp ha
      · have hreset := h.sends_after_resets run.fine does hb hinactive hold hacc
        exact hreset.snoc (Nat.le_of_lt (lt_of_getElem? hold)) (Nat.le_refl _)
      · obtain ⟨work', rest', call', answer, hb', -, -⟩ := hacc
        rw [hb] at hb'
        cases hb'
    · obtain ⟨e, x, he, hx, hexam, hall⟩ := h.awaiting j work rest time call hold
      refine ⟨e, x, getElem?_snoc_of_getElem? he, hx, hexam, fun i a time' ha hacc => ?_⟩
      obtain hold' | ⟨rfl, rfl⟩ := getElem?_snoc.mp ha
      · exact (hall i a time' hold' hacc).snoc (Nat.le_of_lt (lt_of_getElem? hold'))
          (Nat.le_refl _)
      · -- an answer to another check would arrive while this one is under way
        obtain ⟨work', rest', call', answer, hb, -, -⟩ := hacc
        exact (hj' (run.fine.unique hold (hb ▸ does.here) rfl rfl)).elim

theorem of_run (run : System.Run base config System.Serial s log) : Episodes s log m := by
  induction run with
  | initial =>
    refine ⟨fun i a time ha _ => ?_, fun j work rest time call hj => ?_⟩
    · cases ha
    · cases hj
  | begins _ t fresh _ ih => exact ih.begins fresh
  | steps run d does _ ih => exact ih.step run does

end Episodes

/-! ## Between two alerts -/

namespace System.Run

variable {base : String} {config : TelegramConfig} {s : System} {log : List Deed} {m : Metric}

theorem copied_before_accepted {ok : System → Prop} (run : Run base config ok s log) {i : Nat}
    {a : Deed} {time : Instant} (ha : log[i]? = some a) (hacc : a.Accepts m time) :
    ∃ (p : Nat) (c : Deed), p < i ∧ log[p]? = some c ∧ c.task = a.task ∧ c.Copies := by
  obtain ⟨s₀, run₀, does, -⟩ := run.systemAt ha
  obtain ⟨work, rest, call, answer, hb, -, -⟩ := hacc
  have hbusy : a.before.isUnderWay = true := by rw [hb]; rfl
  obtain ⟨p, c, hc, htask, hcopy⟩ := run₀.copied does.here hbusy
  obtain ⟨hp, hc'⟩ := getElem?_take_iff.mp hc
  exact ⟨p, c, hp, hc', htask, hcopy⟩

/-- Between two accepted alerts of a metric there is a reset, after the first check copied its
settings and before the second one read the metric. So readings that stay at or above the reset
level bring no second alert while notifications are on. -/
theorem reset_between_alerts (run : Run base config Serial s log) {i j : Nat} {a b : Deed}
    {first second : Instant} (hij : i < j) (ha : log[i]? = some a) (hb : log[j]? = some b)
    (ha' : a.Accepts m first) (hb' : b.Accepts m second) :
    ∃ (p e : Nat) (c x : Deed), p < i ∧ log[p]? = some c ∧ c.task = a.task ∧ c.Copies ∧
      e < j ∧ log[e]? = some x ∧ x.task = b.task ∧ (∃ work, x.Examines work m) ∧
      (∃ (k : Nat) (f : Deed), p < k ∧ k < e ∧ log[k]? = some f ∧ f.Resets m) ∧
      ¬ ∀ (k : Nat) (f : Deed), p < k → k < e → log[k]? = some f →
        ¬ f.Switches false ∧ ∀ work, f.Examines work m →
          0 < work.config.threshold m ∧ 0 < m.reading work.info ∧
            work.config.threshold m * resetFactor ≤ m.reading work.info := by
  obtain ⟨p, c, hp, hc, htask, hcopy⟩ := run.copied_before_accepted ha ha'
  obtain ⟨s₀, run₀, does, -⟩ := run.systemAt hb
  obtain ⟨work, rest, call, answer, hbefore, -, -⟩ := hb'
  obtain ⟨e, x, he, hx, hexam, hall⟩ :=
    (Episodes.of_run (m := m) run₀).awaiting b.task work rest second call (hbefore ▸ does.here)
  obtain ⟨hej, he'⟩ := getElem?_take_iff.mp he
  have hat : ∀ {k : Nat} {f : Deed}, k < j → log[k]? = some f → (log.take j)[k]? = some f :=
    fun hk hf => getElem?_take_iff.mpr ⟨hk, hf⟩
  obtain ⟨k, f, hpk, hke, hf, hreset⟩ :=
    hall i a first (hat hij ha) ha' p c hp (hat (by omega) hc) htask hcopy
  obtain ⟨-, hf'⟩ := getElem?_take_iff.mp hf
  refine ⟨p, e, c, x, hp, hc, htask, hcopy, hej, he', hx, hexam, ⟨k, f, hpk, hke, hf', hreset⟩, ?_⟩
  intro hsteady
  obtain ⟨hon, hhigh⟩ := hsteady k f hpk hke hf'
  obtain hoff | ⟨work', hexam', hlow⟩ := hreset
  · exact hon hoff
  · obtain ⟨ht, hv, hr⟩ := hhigh work' hexam'
    exact Evaluation.not_lowered ht hv hr hlow

end System.Run

theorem Sample.reset_before_later : ∃ (log : List Deed) (a b : Deed),
    log[3]? = some a ∧ a.Accepts .cpu time ∧ log[12]? = some b ∧ b.Accepts .cpu later ∧
      ∃ (k : Nat) (f : Deed), k < 12 ∧ log[k]? = some f ∧ f.Resets .cpu := by
  obtain ⟨s, log, a, b, run, ha, ha', hb, hb'⟩ := run_again
  obtain ⟨p, e, c, x, -, -, -, -, he, -, -, -, ⟨k, f, -, hk, hf, hr⟩, -⟩ :=
    System.Run.reset_between_alerts run (by decide) ha hb ha' hb'
  exact ⟨log, a, b, ha, ha', hb, hb', k, f, by omega, hf, hr⟩

end HostAlert.Manager
