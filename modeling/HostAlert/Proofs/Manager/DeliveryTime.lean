import HostAlert.Proofs.Manager.Invariant

/-!
# The time of the last delivery

Where checks do not overlap, the latest accepted alert of a metric is recorded by its check, and
nothing touches its time until the next one is accepted. Whether the time is kept is decided when
it is recorded: it is kept exactly when notifications are on then
(`System.Run.lastAlert_after_accepted`). If they were switched off while the alert was on its way,
its time is lost, so that an alert may follow before the cooldown is over
(`Sample.lastAlert_lost`).
-/

namespace HostAlert.Manager

/-- The check is about to record the delivery. -/
def Pending (s : System) (m : Metric) (task : Nat) (time : Instant) : Prop :=
  ∃ work rest, s.tasks[task]? = some (.check (.recording work m rest time))

/-- The delivery that was accepted at the position was recorded, the metric has the time that this
left, and no check is about to record another one. -/
structure Settled (s : System) (log : List Deed) (m : Metric) (position task : Nat)
    (time : Instant) : Prop where
  recorded : ∃ (r : Nat) (d : Deed), position < r ∧ log[r]? = some d ∧ d.task = task ∧
    d.Records m time ∧ (s.shared.alerts.get m).lastAlert =
      if d.found.config.enabled = true then some time else (d.found.alerts.get m).lastAlert
  quiet : ∀ (j : Nat) (time : Instant), ¬ Pending s m j time

theorem not_pending_begins {s : System} {m : Metric} {t : Task} (fresh : t.isFresh = true)
    (h : ∀ (j : Nat) (time : Instant), ¬ Pending s m j time) (j : Nat) (time : Instant) :
    ¬ Pending ⟨s.shared, s.tasks ++ [t]⟩ m j time := by
  rintro ⟨work, rest, hj⟩
  obtain hold | ⟨-, rfl⟩ := getElem?_snoc.mp hj
  · exact h j time ⟨work, rest, hold⟩
  · cases fresh

section Steps

variable {base : String} {s : System} {log : List Deed} {m : Metric} {task : Nat}
  {time : Instant} {d : Deed}

/-- Recording takes the time of the delivery if notifications are on. -/
theorem lastAlert_of_records (does : d.Does base s) (hr : d.Records m time) :
    (d.left.alerts.get m).lastAlert =
        (if d.found.config.enabled = true then some time
          else (d.found.alerts.get m).lastAlert) ∧
      ∀ work rest time, d.after ≠ .check (.recording work m rest time) := by
  obtain ⟨work, rest, hb⟩ := hr
  obtain ⟨c', hafter, moved⟩ := does.movedFrom hb
  obtain ⟨hleft, rfl⟩ := moved.of_recording
  constructor
  · rw [hleft, Shared.lastAlert_recordDelivery]
    simp only [true_and]
  · intro work' rest' time' heq
    have hh : (Check.recording work' m rest' time').Handles m := rfl
    rw [← Task.check.inj (hafter.symm.trans heq)] at hh
    exact Check.not_handles_proceed work rest m hh

theorem lastAlert_of_quiet (does : d.Does base s)
    (quiet : ∀ (j : Nat) (time : Instant), ¬ Pending s m j time) :
    (d.left.alerts.get m).lastAlert = (s.shared.alerts.get m).lastAlert := by
  rw [← does.found]
  obtain heq | ⟨config, -, heq⟩ | ⟨work, n, rest, -, heq⟩ | ⟨work, n, rest, time, hb, heq⟩ :=
    does.taskMoved.shared_cases
  · rw [heq]
  · rw [heq, Shared.lastAlert_replaceConfig]
  · rw [heq, Shared.lastAlert_clearAlert]
  · rw [heq, Shared.lastAlert_recordDelivery, if_neg]
    rintro ⟨rfl, -⟩
    exact quiet d.task time ⟨work, rest, hb ▸ does.here⟩

/-- The check that is about to record the delivery does so, or another task steps. -/
theorem Pending.step (h : Pending s m task time) (serial : s.Serial) (does : d.Does base s)
    {position : Nat} (hp : position < log.length) :
    Pending (d.result s) m task time ∨
      Settled (d.result s) (log ++ [d]) m position task time := by
  obtain ⟨work, rest, ht⟩ := h
  by_cases htask : task = d.task
  · subst htask
    have hb : d.before = .check (.recording work m rest time) :=
      Option.some.inj (does.here.symm.trans ht)
    obtain ⟨htime, hafter⟩ := lastAlert_of_records does ⟨work, rest, hb⟩
    refine .inr ⟨⟨log.length, d, hp, getElem?_snoc.mpr (.inr ⟨rfl, rfl⟩), rfl, ⟨work, rest, hb⟩,
      htime⟩, ?_⟩
    rintro j time' ⟨work', rest', hj⟩
    obtain ⟨-, heq⟩ | ⟨hne, hold⟩ := does.tasks_result hj
    · exact hafter work' rest' time' heq.symm
    · -- two checks would be under way
      exact hne (serial.unique hold ht rfl rfl)
  · refine .inl ⟨work, rest, ?_⟩
    rw [Deed.Does.tasks_other htask]
    exact ht

/-- A settled delivery stays so while no other alert of the metric is accepted. -/
theorem Settled.step {position : Nat} (h : Settled s log m position task time)
    (does : d.Does base s) (other : ∀ time, ¬ d.Accepts m time) :
    Settled (d.result s) (log ++ [d]) m position task time := by
  obtain ⟨r, d₀, hr, hd₀, htask, hrec, htime⟩ := h.recorded
  refine ⟨⟨r, d₀, hr, getElem?_snoc_of_getElem? hd₀, htask, hrec, ?_⟩, ?_⟩
  · exact (lastAlert_of_quiet does h.quiet).trans htime
  · rintro j time' ⟨work, rest, hj⟩
    obtain ⟨-, heq⟩ | ⟨-, hold⟩ := does.tasks_result hj
    · exact other time' (does.accepts_of_recording heq.symm)
    · exact h.quiet j time' ⟨work, rest, hold⟩

end Steps

namespace System.Run

variable {base : String} {config : TelegramConfig} {s : System} {log : List Deed} {m : Metric}

theorem pending_or_settled (run : Run base config Serial s log) {i : Nat} {a : Deed}
    {time : Instant} (ha : log[i]? = some a) (hacc : a.Accepts m time)
    (latest : ∀ (j : Nat) (b : Deed) (time : Instant), i < j → log[j]? = some b →
      ¬ b.Accepts m time) :
    Pending s m a.task time ∨ Settled s log m i a.task time := by
  induction run with
  | initial => cases ha
  | begins _ t fresh _ ih =>
    obtain ⟨work, rest, ht⟩ | hset := ih ha latest
    · exact .inl ⟨work, rest, getElem?_snoc_of_getElem? ht⟩
    · exact .inr ⟨hset.recorded, not_pending_begins fresh hset.quiet⟩
  | @steps s₁ log₁ run₁ d does _ ih =>
    obtain hold | ⟨rfl, rfl⟩ := getElem?_snoc.mp ha
    · have hi := lt_of_getElem? hold
      have other : ∀ time, ¬ d.Accepts m time := fun time' =>
        latest log₁.length d time' hi (getElem?_snoc.mpr (.inr ⟨rfl, rfl⟩))
      obtain hpend | hset := ih hold fun j b time' hj hb =>
        latest j b time' hj (getElem?_snoc_of_getElem? hb)
      · exact hpend.step run₁.fine does hi
      · exact .inr (hset.step does other)
    · obtain ⟨work, rest, hafter⟩ := does.recording_of_accepts hacc
      refine .inl ⟨work, rest, ?_⟩
      rw [does.tasks_self, hafter]

/-- Once the check of the latest accepted alert has ended, its time is kept exactly when
notifications were on as it was recorded, unless the metric had that time already. A time that is
kept holds back further alerts for the cooldown. -/
theorem lastAlert_after_accepted (run : Run base config Serial s log) {i : Nat} {a : Deed}
    {time : Instant} (ha : log[i]? = some a) (hacc : a.Accepts m time)
    (latest : ∀ (j : Nat) (b : Deed) (time : Instant), i < j → log[j]? = some b →
      ¬ b.Accepts m time)
    (ended : s.tasks[a.task]? = some (.check .finished)) :
    ∃ (r : Nat) (d : Deed), i < r ∧ log[r]? = some d ∧ d.task = a.task ∧ d.Records m time ∧
      ((s.shared.alerts.get m).lastAlert = some time ↔
        d.found.config.enabled = true ∨ (d.found.alerts.get m).lastAlert = some time) ∧
      (d.found.config.enabled = false →
        (s.shared.alerts.get m).lastAlert = (d.found.alerts.get m).lastAlert) ∧
      (d.found.config.enabled = true → ∀ work now,
        Check.evaluation work m (s.shared.alerts.get m) now = .startsToExceed →
          work.config.cooldown ≤ time.elapsed now) := by
  obtain ⟨work, rest, hpend⟩ | hset := run.pending_or_settled ha hacc latest
  · rw [ended] at hpend
    cases hpend
  · obtain ⟨r, d, hir, hd, htask, hrec, htime⟩ := hset.recorded
    refine ⟨r, d, hir, hd, htask, hrec, ?_, ?_, ?_⟩
    · rw [htime]
      split
      · next hon => simp only [hon, true_or]
      · next hoff => simp only [hoff, false_or, Bool.false_eq_true]
    · intro hoff
      rw [htime, hoff, if_neg Bool.false_ne_true]
    · intro hon work now hstarts
      rw [hon, if_pos rfl] at htime
      obtain ⟨-, -, -, -, hcool⟩ := Evaluation.startsToExceed_iff.mp hstarts
      rw [AlertState.since, htime] at hcool
      exact of_decide_eq_true hcool

end System.Run

namespace Sample

theorem latest_of_entries {log : List Deed} {i : Nat}
    (h : ∀ b ∈ log.drop (i + 1), b.event = .enter time time) (j : Nat) (b : Deed) (t : Instant)
    (hij : i < j) (hb : log[j]? = some b) : ¬ b.Accepts .cpu t := by
  have hdrop : (log.drop (i + 1))[j - (i + 1)]? = some b := by
    rw [List.getElem?_drop, Nat.add_sub_cancel' hij]
    exact hb
  have hevent := h b (List.mem_of_getElem? hdrop)
  rintro ⟨work, rest, call, answer, -, he, -⟩
  rw [he] at hevent
  cases hevent

theorem lastAlert_finished : ∃ (s : System) (log : List Deed) (a : Deed),
    System.Run base settings System.Serial s log ∧ log[3]? = some a ∧ a.Accepts .cpu time ∧
      s.tasks[a.task]? = some (.check .finished) ∧
      ∃ (r : Nat) (d : Deed), 3 < r ∧ log[r]? = some d ∧ d.Records .cpu time ∧
        ((s.shared.alerts.get .cpu).lastAlert = some time ↔
          d.found.config.enabled = true ∨ (d.found.alerts.get .cpu).lastAlert = some time) := by
  obtain ⟨call, run⟩ := run_finished
  have hacc : Deed.Accepts ⟨0, .answered accepted, .initial settings,
      .check (.awaiting (work 1) .cpu [.memory, .disk] time call), .initial settings,
      .check (.recording (work 1) .cpu [.memory, .disk] time)⟩ .cpu time :=
    ⟨work 1, [.memory, .disk], call, accepted, rfl, rfl, accepted_ok⟩
  have hlatest : ∀ b ∈ (sending 1 call ++ finishing call).drop 4, b.event = .enter time time := by
    simp [sending, finishing]
  obtain ⟨r, d, hr, hd, -, hrec, hiff, -⟩ :=
    System.Run.lastAlert_after_accepted run rfl hacc (latest_of_entries hlatest) rfl
  exact ⟨_, _, _, run, rfl, hacc, rfl, r, d, hr, hd, hrec, hiff⟩

/-- Notifications are switched off while the alert of the CPU is on its way; it is accepted, and
its check ends. -/
theorem run_silenced : ∃ (s : System) (log : List Deed) (a : Deed),
    System.Run base settings System.Serial s log ∧ log[4]? = some a ∧ a.Accepts .cpu time ∧
      (∀ b ∈ log.drop 5, b.event = .enter time time) ∧
      s.tasks[a.task]? = some (.check .finished) ∧
      (s.shared.alerts.get .cpu).lastAlert = none := by
  obtain ⟨call, sent⟩ := run_sent 1
  have off := sent.updates silent time time (Nat.le_refl 1) (Nat.le_refl 1)
  have accept := off.checks 0 rfl
    (.accepts (work 1) .cpu [.memory, .disk] time call accepted accepted_ok) (Nat.le_refl 1)
  have record := accept.checks 0 rfl (.records (work 1) .cpu [.memory, .disk] time time time)
    (Nat.le_refl 1)
  have memory := record.checks 0 rfl (moved_passes (by decide) rfl [.disk]) (Nat.le_refl 1)
  have disk := memory.checks 0 rfl (moved_passes (by decide) rfl []) (Nat.zero_le 1)
  refine ⟨_, _, _, disk, rfl, ⟨work 1, [.memory, .disk], call, accepted, rfl, rfl, accepted_ok⟩,
    ?_, rfl, rfl⟩
  simp [sending]

/-- The time of an accepted alert may be lost. -/
theorem lastAlert_lost : ¬ ∀ (base : String) (config : TelegramConfig) (s : System)
    (log : List Deed) (i : Nat) (a : Deed) (m : Metric) (time : Instant),
    System.Run base config System.Serial s log → log[i]? = some a → a.Accepts m time →
      (∀ (j : Nat) (b : Deed) (time : Instant), i < j → log[j]? = some b → ¬ b.Accepts m time) →
      s.tasks[a.task]? = some (.check .finished) →
      (s.shared.alerts.get m).lastAlert = some time := by
  intro h
  obtain ⟨s, log, a, run, ha, hacc, hlatest, hover, hnone⟩ := run_silenced
  have hkept := h base settings s log 4 a .cpu time run ha hacc (latest_of_entries hlatest) hover
  rw [hnone] at hkept
  cases hkept

end Sample

end HostAlert.Manager
