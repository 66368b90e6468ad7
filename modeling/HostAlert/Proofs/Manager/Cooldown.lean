import HostAlert.Proofs.Manager.Copy
import HostAlert.Proofs.Manager.DeliveryTime
import HostAlert.Proofs.Time.Spacing

/-!
# The cooldown between alerts

Where checks do not overlap and notifications stay on, two accepted alerts of a metric are apart by
the cooldown of the later check, so a window of time holds only so many
(`System.Run.cooldown_between_alerts`). The invariant `Spaced` says that the stored time of a metric
is no earlier than any of its accepted alerts, once they are recorded, and that an alert on its way
was attempted a cooldown after the stored time. Readings play no part in it.
-/

namespace HostAlert.Manager

namespace Check

/-- The alert of the metric, attempted at the time, is on its way or about to be recorded. -/
def Carries (m : Metric) (work : Work) (time : Instant) : Check → Prop
  | awaiting w n _ t _ | recording w n _ t => w = work ∧ n = m ∧ t = time
  | _ => False

variable {base : String} {s s' : Shared} {c c' : Check} {e : Event} {m : Metric} {work : Work}
  {time : Instant}

theorem Carries.handles (h : c.Carries m work time) : c.Handles m := by
  cases c <;> first | exact h.2.1 | exact h.elim

theorem not_carries_proceed (w : Work) (rest : List Metric) :
    ¬ (proceed w rest).Carries m work time :=
  fun h => not_handles_proceed w rest m h.handles

/-- An alert is carried from its attempt on. -/
theorem Moved.carries_before (h : Moved base s c e s' c') (hc : c'.Carries m work time) :
    c.Carries m work time ∨ ∃ now rest call, e = .enter now time ∧ c = .examining work m rest ∧
      c' = .awaiting work m rest time call ∧
      evaluation work m (s.alerts.get m) now = .startsToExceed := by
  cases h with
  | copies | declines | lowers => exact hc.elim
  | collects | passes | fails | clears | refuses | records =>
    exact (not_carries_proceed _ _ hc).elim
  | sends w n rest now attempt starts call =>
    obtain ⟨rfl, rfl, rfl⟩ := hc
    exact .inr ⟨now, rest, call, rfl, rfl, rfl, starts⟩
  | accepts => exact .inl hc

theorem after_cooldown_le {last now : Instant} {state : AlertState}
    (starts : evaluation work m state now = .startsToExceed) (stored : state.lastAlert = some last)
    (positive : work.config.cooldown.isZero = false) :
    last.after work.config.cooldown ≤ now := by
  obtain ⟨-, -, -, -, hcool⟩ := Evaluation.startsToExceed_iff.mp starts
  rw [AlertState.since, stored] at hcool
  have helapsed : work.config.cooldown ≤ last.elapsed now := of_decide_eq_true hcool
  obtain hle | hzero := Instant.le_elapsed_iff.mp helapsed
  · exact hle
  · rw [Span.isZero, hzero] at positive
    cases positive

end Check

namespace Deed

/-- The clock does not go back between the judgement of a metric and the attempt to alert it. -/
def Forward (d : Deed) : Prop :=
  ∀ work m rest call now attempt, d.event = .enter now attempt →
    d.after = .check (.awaiting work m rest attempt call) → now ≤ attempt

/-- The time at which the alert of the metric was attempted that was answered and accepted. -/
def acceptedAt? (m : Metric) (d : Deed) : Option Instant :=
  match d.before, d.event with
  | .check (.awaiting _ n _ time _), .answered answer =>
    match Delivery.outcome answer with
    | .ok () => if n = m then some time else none
    | .error _ => none
  | _, _ => none

theorem acceptedAt?_eq_some_iff {m : Metric} {d : Deed} {time : Instant} :
    d.acceptedAt? m = some time ↔ d.Accepts m time := by
  constructor
  · intro h
    unfold acceptedAt? at h
    split at h
    · next work n rest t call answer hb he =>
      split at h
      · next hout =>
        split at h
        · next hn =>
          cases h
          subst hn
          exact ⟨work, rest, call, answer, hb, he, hout⟩
        · cases h
      · cases h
    · cases h
  · rintro ⟨work, rest, call, answer, hb, he, hout⟩
    simp only [acceptedAt?, hb, he, hout, if_true]

variable {base : String} {s : System} {d : Deed} {m : Metric}

/-- The stored time of a metric changes only when a delivery of it is recorded, with notifications
on. -/
theorem Does.lastAlert_cases (h : d.Does base s) :
    (d.left.alerts.get m).lastAlert = (s.shared.alerts.get m).lastAlert ∨
      ∃ work rest time, d.before = .check (.recording work m rest time) ∧
        (d.left.alerts.get m).lastAlert = some time ∧ s.shared.config.enabled = true := by
  rw [← h.found]
  obtain heq | ⟨config, -, heq⟩ | ⟨work, n, rest, -, heq⟩ | ⟨work, n, rest, time, hb, heq⟩ :=
    h.taskMoved.shared_cases
  · exact .inl (by rw [heq])
  · exact .inl (by rw [heq, Shared.lastAlert_replaceConfig])
  · exact .inl (by rw [heq, Shared.lastAlert_clearAlert])
  · rw [heq, Shared.lastAlert_recordDelivery]
    split
    · next hrec => exact .inr ⟨work, rest, time, hrec.1 ▸ hb, rfl, hrec.2⟩
    · exact .inl rfl

end Deed

/-- The times at which the accepted alerts of a metric were attempted, in the order of their
answers. -/
def acceptedTimes (m : Metric) (log : List Deed) : List Instant :=
  log.filterMap (·.acceptedAt? m)

/-! ## The invariant -/

/-- How the stored time of a metric stands to its alerts. -/
structure Spaced (s : System) (log : List Deed) (m : Metric) : Prop where
  /-- An accepted alert is about to be recorded, or was attempted no later than the stored time. -/
  accepted : ∀ (i : Nat) (a : Deed) (time : Instant), log[i]? = some a → a.Accepts m time →
    Pending s m a.task time ∨
      ∃ last, (s.shared.alerts.get m).lastAlert = some last ∧ time ≤ last
  /-- An alert that is carried was attempted a cooldown after the stored time. -/
  carried : ∀ (j : Nat) (c : Check) (work : Work) (time last : Instant),
    s.tasks[j]? = some (.check c) → c.Carries m work time →
    (s.shared.alerts.get m).lastAlert = some last → last.after work.config.cooldown ≤ time

namespace Spaced

variable {base : String} {config : TelegramConfig} {s : System} {log : List Deed} {m : Metric}
  {d : Deed}

theorem begins (h : Spaced s log m) {t : Task} (fresh : t.isFresh = true) :
    Spaced ⟨s.shared, s.tasks ++ [t]⟩ log m where
  accepted i a time ha hacc := by
    obtain ⟨work, rest, hpend⟩ | hstored := h.accepted i a time ha hacc
    · exact .inl ⟨work, rest, getElem?_snoc_of_getElem? hpend⟩
    · exact .inr hstored
  carried j c work time last hj hc hlast := by
    obtain hold | ⟨-, rfl⟩ := getElem?_snoc.mp hj
    · exact h.carried j c work time last hold hc hlast
    · have hbusy : (Task.check c).isUnderWay = true := Check.isUnderWay_of_handles hc.handles
      rw [Task.isUnderWay_fresh fresh] at hbusy
      cases hbusy

/-- An accepted alert is recorded while notifications are on, and a later one is recorded with a
later time. -/
theorem accepted_step (h : Spaced s log m) (does : d.Does base s)
    (hon : d.before.isUnderWay = true → s.shared.config.enabled = true) {i : Nat} {a : Deed}
    {time : Instant} (ha : log[i]? = some a) (hacc : a.Accepts m time) :
    Pending (d.result s) m a.task time ∨
      ∃ last, (d.left.alerts.get m).lastAlert = some last ∧ time ≤ last := by
  obtain ⟨work, rest, hpend⟩ | ⟨last, hlast, hle⟩ := h.accepted i a time ha hacc
  · by_cases htask : a.task = d.task
    · have hb : d.before = .check (.recording work m rest time) :=
        Option.some.inj (does.here.symm.trans (htask ▸ hpend))
      obtain ⟨c', -, moved⟩ := does.movedFrom hb
      refine .inr ⟨time, ?_, Int.le_refl _⟩
      rw [moved.of_recording.1, Shared.lastAlert_recordDelivery, does.found,
        if_pos ⟨rfl, hon (by rw [hb]; rfl)⟩]
    · refine .inl ⟨work, rest, ?_⟩
      rw [Deed.Does.tasks_other htask]
      exact hpend
  · obtain hsame | ⟨work, rest, later, hb, hleft, -⟩ := does.lastAlert_cases (m := m)
    · exact .inr ⟨last, hsame.trans hlast, hle⟩
    · refine .inr ⟨later, hleft, ?_⟩
      have hcarries : (Check.recording work m rest later).Carries m work later := ⟨rfl, rfl, rfl⟩
      have hafter := h.carried d.task _ work later last (hb ▸ does.here) hcarries hlast
      simp only [Instant.le_def, Instant.after] at hle hafter ⊢
      omega

/-- An alert is attempted a cooldown after the stored time, which no other check changes before it
is recorded. -/
theorem carried_step (h : Spaced s log m) (serial : s.Serial) (does : d.Does base s)
    (forward : d.Forward) (positive : ∀ (c : Check) (copy : TelegramConfig),
      d.before = .check c → c.config? = some copy → copy.cooldown.isZero = false)
    {j : Nat} {c : Check} {work : Work} {time last : Instant}
    (hj : (d.result s).tasks[j]? = some (.check c)) (hc : c.Carries m work time)
    (hlast : (d.left.alerts.get m).lastAlert = some last) :
    last.after work.config.cooldown ≤ time := by
  obtain ⟨rfl, heq⟩ | ⟨hne, hold⟩ := does.tasks_result hj
  · obtain ⟨c₀, hb, moved⟩ := does.movedTo heq.symm
    obtain hsame | ⟨work', rest, later, hb', -⟩ := does.lastAlert_cases (m := m)
    · rw [hsame] at hlast
      obtain hkept | ⟨now, rest, call, he, rfl, rfl, starts⟩ := moved.carries_before hc
      · exact h.carried _ c₀ work time last (hb ▸ does.here) hkept hlast
      · rw [does.found] at starts
        have hcool := Check.after_cooldown_le starts hlast (positive _ _ hb rfl)
        have htick := forward work m rest call now time he heq.symm
        simp only [Instant.le_def] at hcool htick ⊢
        omega
    · -- a check that has recorded its alert carries it no more
      rw [hb] at hb'
      cases hb'
      rw [moved.of_recording.2] at hc
      exact (Check.not_carries_proceed _ _ hc).elim
  · obtain hsame | ⟨work', rest, later, hb', -⟩ := does.lastAlert_cases (m := m)
    · exact h.carried j c work time last hold hc (hsame ▸ hlast)
    · -- two checks would be under way
      have hbusy := Check.isUnderWay_of_handles hc.handles
      exact (hne (serial.unique hold (hb' ▸ does.here) hbusy rfl)).elim

theorem of_run (run : System.Run base config System.Serial s log)
    (on : ∀ d ∈ log, ¬ d.Switches false) (forward : ∀ d ∈ log, d.Forward) : Spaced s log m := by
  induction run with
  | initial =>
    refine ⟨fun i a time ha _ => ?_, fun j c work time last hj _ _ => ?_⟩
    · cases ha
    · cases hj
  | begins _ t fresh _ ih => exact (ih on forward).begins fresh
  | @steps s₁ log₁ run₁ d does _ ih =>
    have on₁ : ∀ d ∈ log₁, ¬ d.Switches false := fun d hd => on d (List.mem_append_left _ hd)
    have hspaced := ih on₁ fun d hd => forward d (List.mem_append_left _ hd)
    refine ⟨fun i a time ha hacc => ?_, fun j c work time last hj hc hlast => ?_⟩
    · obtain hold | ⟨rfl, rfl⟩ := getElem?_snoc.mp ha
      · exact hspaced.accepted_step does (run₁.enabled_of_underWay on₁ does.here) hold hacc
      · obtain ⟨work, rest, hafter⟩ := does.recording_of_accepts hacc
        refine .inl ⟨work, rest, ?_⟩
        rw [does.tasks_self, hafter]
    · refine hspaced.carried_step run₁.fine does (forward d List.mem_concat_self) ?_ hj hc hlast
      exact fun c copy hb hcopy => run₁.copy_cooldown (hb ▸ does.here) hcopy

end Spaced

/-! ## Alerts over time -/

namespace System.Run

variable {base : String} {config : TelegramConfig} {s : System} {log : List Deed} {m : Metric}

theorem after_cooldown_of_accepted (run : Run base config Serial s log)
    (on : ∀ d ∈ log, ¬ d.Switches false) (forward : ∀ d ∈ log, d.Forward) {i j : Nat} {a b : Deed}
    {first second : Instant} (hij : i < j) (ha : log[i]? = some a) (hb : log[j]? = some b)
    (ha' : a.Accepts m first) {work : Work} {rest : List Metric} {call : Http.Call}
    (hb' : b.before = .check (.awaiting work m rest second call)) :
    first.after work.config.cooldown ≤ second := by
  obtain ⟨s₀, run₀, does, -⟩ := run.systemAt hb
  have hspaced : Spaced s₀ (log.take j) m :=
    .of_run run₀ (fun d hd => on d (List.mem_of_mem_take hd))
      fun d hd => forward d (List.mem_of_mem_take hd)
  have hhere : s₀.tasks[b.task]? = some (.check (.awaiting work m rest second call)) :=
    hb' ▸ does.here
  have ha₀ : (log.take j)[i]? = some a := getElem?_take_iff.mpr ⟨hij, ha⟩
  obtain ⟨work', rest', hpend⟩ | ⟨last, hlast, hle⟩ := hspaced.accepted i a first ha₀ ha'
  · -- two checks would be under way
    have htask := run₀.fine.unique hpend hhere rfl rfl
    rw [htask, hhere] at hpend
    cases hpend
  · have hafter := hspaced.carried b.task _ work second last hhere ⟨rfl, rfl, rfl⟩ hlast
    simp only [Instant.le_def, Instant.after] at hle hafter ⊢
    omega

/-- While notifications stay on and the clock does not go back, two accepted alerts of a metric are
apart by the cooldown of the later check. So if all settings in force have a cooldown of at least
`least`, a window of time holds one alert more than that cooldown fits into it at most. -/
theorem cooldown_between_alerts (run : Run base config Serial s log)
    (on : ∀ d ∈ log, ¬ d.Switches false) (forward : ∀ d ∈ log, d.Forward) (m : Metric) :
    (∀ (i j : Nat) (a b : Deed) (first second : Instant), i < j → log[i]? = some a →
      log[j]? = some b → a.Accepts m first → b.Accepts m second →
      ∃ work rest call, b.before = .check (.awaiting work m rest second call) ∧
        first.after work.config.cooldown ≤ second) ∧
    ∀ least : Span, least.isZero = false → least ≤ config.normalize.cooldown →
      (∀ d ∈ log, least ≤ d.left.config.cooldown) → ∀ (start : Instant) (window : Span),
        ((acceptedTimes m log).filter fun t => start ≤ t ∧ t ≤ start.after window).length ≤
          1 + window.nanos / least.nanos := by
  constructor
  · intro i j a b first second hij ha hb ha' hb'
    obtain ⟨work, rest, call, answer, hbefore, -, -⟩ := hb'
    exact ⟨work, rest, call, hbefore,
      run.after_cooldown_of_accepted on forward hij ha hb ha' hbefore⟩
  · intro least positive initially later start window
    have apart : (acceptedTimes m log).Pairwise fun t u => t.after least ≤ u := by
      rw [acceptedTimes, List.pairwise_filterMap, List.pairwise_iff_getElem]
      intro i j hi hj hij t ht u hu
      have ha : log[i]? = some log[i] := List.getElem?_eq_getElem hi
      have hb : log[j]? = some log[j] := List.getElem?_eq_getElem hj
      obtain ⟨work, rest, call, answer, hbefore, -, -⟩ := Deed.acceptedAt?_eq_some_iff.mp hu
      have hafter := run.after_cooldown_of_accepted on forward hij ha hb
        (Deed.acceptedAt?_eq_some_iff.mp ht) hbefore
      obtain ⟨s₀, run₀, does, -⟩ := run.systemAt hb
      have hleast : least ≤ work.config.cooldown :=
        run₀.copy_of_in_force (P := fun copy => least ≤ copy.cooldown) initially
          (fun d hd => later d (List.mem_of_mem_take hd)) (hbefore ▸ does.here) rfl
      simp only [Instant.le_def, Instant.after, Span.le_def] at hafter hleast ⊢
      omega
    have within : ∀ t ∈ (acceptedTimes m log).filter
        fun t => start ≤ t ∧ t ≤ start.after window, start ≤ t ∧ t ≤ start.after window :=
      fun t ht => of_decide_eq_true (List.mem_filter.mp ht).2
    exact Instant.length_le_of_spaced positive (apart.filter _) within

end System.Run

namespace Sample

theorem evaluation_blank (m : Metric) (state : AlertState) :
    (Check.evaluation ⟨settings, .empty⟩ m state time).clears = true := by
  have hnothing : m.reading .empty ≤ 0 := by cases m <;> decide +kernel
  simp [Check.evaluation, Evaluation.evaluate, hnothing, Evaluation.clears]

def calm : Shared := ((recorded.clearAlert .cpu).clearAlert .memory).clearAlert .disk

theorem run_repeated : ∃ s log a b, System.Run base settings System.Serial s log ∧
    (∀ d ∈ log, ¬ d.Switches false) ∧ (∀ d ∈ log, d.Forward) ∧
    log[3]? = some a ∧ a.Accepts .cpu time ∧ log[18]? = some b ∧ b.Accepts .cpu later ∧
    ∀ d ∈ log, d.left.config = settings.normalize := by
  obtain ⟨call, finished⟩ := run_finished
  obtain ⟨call', hcall⟩ := exists_plan (readings 1) .cpu
  have lowers (s : Shared) (m : Metric) (rest : List Metric) :
      Check.Moved base s (.examining ⟨settings, .empty⟩ m rest) (.enter time time) s
        (.clearing ⟨settings, .empty⟩ m rest) :=
    .lowers _ m rest time time (evaluation_blank m _)
  have sends : Check.Moved base calm (.examining (work 1) .cpu [.memory, .disk])
      (.enter later later) calm (.awaiting (work 1) .cpu [.memory, .disk] later call') := by
    refine .sends (work 1) .cpu [.memory, .disk] later later ?_ call' hcall
    decide +kernel
  have begun := finished.begins (.check .begun) rfl (Nat.zero_le 1)
  have copied := begun.checks 1 rfl (.copies time time deliverable) (Nat.le_refl 1)
  have collected := copied.checks 1 rfl (.collects settings .empty) (Nat.le_refl 1)
  have cpu := (collected.checks 1 rfl (lowers _ .cpu _) (Nat.le_refl 1)).checks 1 rfl
    (.clears _ .cpu _ time time) (Nat.le_refl 1)
  have memory := (cpu.checks 1 rfl (lowers _ .memory _) (Nat.le_refl 1)).checks 1 rfl
    (.clears _ .memory _ time time) (Nat.le_refl 1)
  have disk := (memory.checks 1 rfl (lowers _ .disk _) (Nat.le_refl 1)).checks 1 rfl
    (.clears _ .disk _ time time) (Nat.zero_le 1)
  have again := disk.begins (.check .begun) rfl (Nat.zero_le 1)
  have copied' := again.checks 2 rfl (.copies time time deliverable) (Nat.le_refl 1)
  have collected' := copied'.checks 2 rfl (.collects settings (readings 1)) (Nat.le_refl 1)
  have sent := collected'.checks 2 rfl sends (Nat.le_refl 1)
  have answered := sent.checks 2 rfl
    (.accepts (work 1) .cpu [.memory, .disk] later call' accepted accepted_ok) (Nat.le_refl 1)
  refine ⟨_, _, _, _, answered, ?_, ?_, rfl,
    ⟨work 1, [.memory, .disk], call, accepted, rfl, rfl, rfl⟩, rfl,
    ⟨work 1, [.memory, .disk], call', accepted, rfl, rfl, rfl⟩, ?_⟩
  · simp [sending, finishing, Deed.Switches]
  · intro d hd work m rest call now attempt he _
    have htimes : d.event = .enter time time ∨ d.event = .enter later later ∨
        ∀ now attempt, d.event ≠ .enter now attempt := by
      revert d
      simp [sending, finishing]
    rcases htimes with h | h | h
    · rw [he] at h
      cases h
      exact Int.le_refl _
    · rw [he] at h
      cases h
      exact Int.le_refl _
    · exact (h now attempt he).elim
  · have hbegun : (Shared.initial settings).config = settings.normalize := rfl
    have hrecorded : recorded.config = settings.normalize := rfl
    have hcalm : calm.config = settings.normalize := rfl
    simp [sending, finishing, hbegun, hrecorded, hcalm]

/-- The two alerts are a minute apart, and a minute and a half holds no third one. -/
theorem cooldown_repeated : ∃ (log : List Deed) (a b : Deed), log[3]? = some a ∧
    a.Accepts .cpu time ∧ log[18]? = some b ∧ b.Accepts .cpu later ∧
    (∃ work rest call, b.before = .check (.awaiting work .cpu rest later call) ∧
      time.after work.config.cooldown ≤ later) ∧
    ((acceptedTimes .cpu log).filter fun t =>
      time ≤ t ∧ t ≤ time.after (.ofSeconds 90)).length ≤ 2 := by
  obtain ⟨s, log, a, b, run, on, forward, ha, ha', hb, hb', same⟩ := run_repeated
  obtain ⟨apart, count⟩ := System.Run.cooldown_between_alerts run on forward .cpu
  refine ⟨log, a, b, ha, ha', hb, hb', apart 3 18 a b time later (by decide) ha hb ha' hb', ?_⟩
  refine count settings.normalize.cooldown (by decide) (Nat.le_refl _) (fun d hd => ?_) time
    (.ofSeconds 90)
  rw [same d hd]
  exact Nat.le_refl _

end Sample

end HostAlert.Manager
