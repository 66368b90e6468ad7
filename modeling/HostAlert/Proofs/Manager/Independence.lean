import HostAlert.Proofs.Manager.Replay

/-!
# Metrics do not disturb each other

In a run in which checks do not overlap, a `Watch` that replays the script of one metric shows the
state of its alert and tells the attempts to alert it (`System.Meets.watched`). So two runs that
meet the same script under the same terms agree on both, whatever happens to the other metrics
(`System.Meets.metric_independent`). Every such run meets a script (`System.Run.scripted`).
-/

namespace HostAlert.Manager

theorem Deed.Plays.cues_cases {m : Metric} {script cues : List Cue} {d : Deed}
    (h : d.Plays m script cues) : cues = [] ∨ ∃ cue, cues = [cue] := by
  cases h with
  | replaces | reads | turns | changes => exact .inr ⟨_, rfl⟩
  | answers | other => exact .inl rfl

theorem Shows.tries_iff {base : String} {s : System} {m : Metric} {script cues : List Cue}
    {w : Watch} {d : Deed} (h : Shows s script m w) (does : d.Does base s)
    (plays : d.Plays m script cues) : d.Tries m ↔ ∃ cue, cues = [cue] ∧ w.tries cue = true := by
  constructor
  · rintro ⟨work, rest, now, attempt, before, event, starts⟩
    have hc : s.tasks[d.task]? = some (.check (.examining work m rest)) := before ▸ does.here
    have hmatches := h.matches_of_underWay hc rfl
    rw [does.found] at starts
    cases plays with
    | turns work' rest' now' attempt' tried accepted before' event' =>
      rw [before] at before'
      rw [event] at event'
      cases before'
      cases event'
      exact ⟨_, rfl, hmatches.tries_turn.mpr starts⟩
    | other elsewhere =>
      rw [before] at elsewhere
      exact (of_decide_eq_false elsewhere rfl).elim
    | replaces new before' | reads before' | answers work' rest' time call answer before' =>
      rw [before] at before'
      cases before'
    | changes changing =>
      rw [before] at changing
      obtain ⟨work', rest', hb⟩ | ⟨work', rest', time, hb⟩ := changing <;> cases hb
  · rintro ⟨cue, rfl, htries⟩
    cases plays with
    | turns work rest now attempt tried accepted before event =>
      have hc : s.tasks[d.task]? = some (.check (.examining work m rest)) := before ▸ does.here
      have starts := (h.matches_of_underWay hc rfl).tries_turn.mp htries
      exact ⟨work, rest, now, attempt, before, event, does.found ▸ starts⟩
    | replaces | reads | changes => cases htries

namespace System.Meets

variable {base : String} {config : TelegramConfig} {s : System} {m : Metric} {script : List Cue}
  {tries : List Nat}

theorem plays {cues : List Cue} {d : Deed} (meets : Meets base config m s script tries)
    (does : d.Does base s) (serial : (d.result s).Serial) (plays : d.Plays m script cues) :
    ∃ tries', Meets base config m (d.result s) (script ++ cues) tries' := by
  by_cases htries : d.Tries m
  · exact ⟨_, meets.tries d does serial plays htries⟩
  · exact ⟨_, meets.steps d does serial plays htries⟩

theorem checks (meets : Meets base config m s script tries) (i : Nat) {c c' : Check} {e : Event}
    {left : Shared} (here : s.tasks[i]? = some (.check c))
    (moved : Check.Moved base s.shared c e left c')
    (serial : System.Serial ⟨left, s.tasks.set i (.check c')⟩) {cues : List Cue}
    (plays : Deed.Plays m script ⟨i, e, s.shared, .check c, left, .check c'⟩ cues) :
    ∃ tries', Meets base config m ⟨left, s.tasks.set i (.check c')⟩ (script ++ cues) tries' := by
  have hstep : (Task.check c).step base s.shared e = some (left, .check c') :=
    Option.map_eq_some_iff.mpr ⟨(left, c'), Check.step_of_moved moved, rfl⟩
  exact meets.plays (d := ⟨i, e, s.shared, .check c, left, .check c'⟩) ⟨rfl, here, hstep⟩ serial
    plays

/-- A watch that replays the script shows the system, and tells the attempts to alert the metric. -/
theorem watched (meets : Meets base config m s script tries) :
    Shows s script m ((Watch.initial (.ofConfig config.normalize m)).replay script) ∧
      tries = (Watch.initial (.ofConfig config.normalize m)).attempts script := by
  induction meets with
  | initial => exact ⟨.initial config m, rfl⟩
  | begins _ t fresh _ ih => exact ⟨ih.1.begins fresh, ih.2⟩
  | steps earlier d does serial plays quiet ih =>
    obtain ⟨shows, attempts⟩ := ih
    obtain ⟨log, run⟩ := earlier.run
    have after := shows.plays (fun _ _ => run.distinct) run.fine serial does plays
    have hquiet := mt (shows.tries_iff does plays).mpr quiet
    obtain rfl | ⟨cue, rfl⟩ := plays.cues_cases
    · rw [List.append_nil] at after ⊢
      exact ⟨after, attempts⟩
    · rw [Watch.attempts_snoc, Watch.replay_snoc, if_neg fun h => hquiet ⟨cue, rfl, h⟩,
        List.append_nil]
      exact ⟨after, attempts⟩
  | tries earlier d does serial plays tried ih =>
    obtain ⟨shows, attempts⟩ := ih
    obtain ⟨log, run⟩ := earlier.run
    have after := shows.plays (fun _ _ => run.distinct) run.fine serial does plays
    obtain ⟨cue, rfl, htries⟩ := (shows.tries_iff does plays).mp tried
    rw [Watch.attempts_snoc, Watch.replay_snoc, if_pos htries, attempts]
    exact ⟨after, rfl⟩
  | passesTurn _ idle reading now attempt accepted ih =>
    obtain ⟨shows, attempts⟩ := ih
    have hphase := shows.idle idle
    rw [Watch.attempts_snoc, Watch.replay_snoc]
    simp only [Watch.tries, hphase, Bool.false_eq_true, if_false, List.append_nil]
    exact ⟨shows.passes idle (by simp only [Watch.step, hphase]), attempts⟩
  | passesChange _ idle ih =>
    obtain ⟨shows, attempts⟩ := ih
    have hphase := shows.idle idle
    rw [Watch.attempts_snoc, Watch.replay_snoc]
    simp only [Watch.tries, Bool.false_eq_true, if_false, List.append_nil]
    exact ⟨shows.passes idle (by simp only [Watch.step, hphase]), attempts⟩

/-- Two runs that meet the same script for a metric, under settings of the same terms, agree on the
alert of the metric and attempt it at the same places, whatever happens to the other metrics. -/
theorem metric_independent {base' : String} {config' : TelegramConfig} {s' : System}
    {tries' : List Nat} (meets : Meets base config m s script tries)
    (meets' : Meets base' config' m s' script tries')
    (terms : Terms.ofConfig config.normalize m = .ofConfig config'.normalize m) :
    s.shared.alerts.get m = s'.shared.alerts.get m ∧ tries = tries' := by
  obtain ⟨shows, attempts⟩ := meets.watched
  obtain ⟨shows', attempts'⟩ := meets'.watched
  rw [shows.alert, shows'.alert, attempts, attempts', terms]
  exact ⟨rfl, rfl⟩

end System.Meets

namespace Sample

def breach : List Cue := [.read, .turn 95 time time true, .change]

theorem meets_breach (memory : Float) : ∃ tries, System.Meets base settings .cpu
    ⟨recorded, [.check (.examining (work memory) .memory [.disk])]⟩ breach tries := by
  obtain ⟨call, hcall⟩ := exists_plan (readings memory) .cpu
  have begun : System.Meets base settings .cpu ⟨.initial settings, [.check .begun]⟩ [] [] :=
    System.Meets.initial.begins (.check .begun) rfl (Nat.zero_le 1)
  obtain ⟨_, copied⟩ := begun.checks 0 rfl (.copies time time deliverable) (Nat.le_refl 1)
    (.reads rfl)
  obtain ⟨_, collected⟩ := copied.checks 0 rfl (.collects settings (readings memory))
    (Nat.le_refl 1) (.other rfl)
  have sends : Check.Moved base (.initial settings)
      (.examining (work memory) .cpu [.memory, .disk]) (.enter time time) (.initial settings)
      (.awaiting (work memory) .cpu [.memory, .disk] time call) := by
    refine .sends (work memory) .cpu [.memory, .disk] time time ?_ call hcall
    exact evaluation_starts memory
  obtain ⟨_, sent⟩ := collected.checks 0 rfl sends (Nat.le_refl 1)
    (.turns (work memory) [.memory, .disk] time time time true rfl rfl fun _ =>
      ⟨rfl, fun _ => ⟨call, rfl⟩⟩)
  obtain ⟨_, answered⟩ := sent.checks 0 rfl
    (.accepts (work memory) .cpu [.memory, .disk] time call accepted accepted_ok) (Nat.le_refl 1)
    (.answers (work memory) [.memory, .disk] time call accepted rfl rfl
      (iff_of_true accepted_ok rfl))
  exact answered.checks 0 rfl (.records (work memory) .cpu [.memory, .disk] time time time)
    (Nat.le_refl 1) (.changes (.inr ⟨work memory, [.memory, .disk], time, rfl⟩))

/-- The CPU fares alike beside a memory that is idle and beside one that is alerted. -/
theorem alike_beside_memory : ∃ tries tries' : List Nat,
    System.Meets base settings .cpu
      ⟨recorded, [.check (.examining (work 1) .memory [.disk])]⟩ breach tries ∧
    System.Meets base settings .cpu
      ⟨recorded.recordDelivery .memory time, [.check (.examining (work 95) .disk [])]⟩ breach
      tries' ∧
    recorded.alerts.get .cpu = (recorded.recordDelivery .memory time).alerts.get .cpu ∧
      tries = tries' := by
  obtain ⟨tries, idle⟩ := meets_breach 1
  obtain ⟨_, busy⟩ := meets_breach 95
  obtain ⟨call, hcall⟩ := exists_plan (readings 95) .memory
  have starts : Check.evaluation (work 95) .memory (recorded.alerts.get .memory) time =
      .startsToExceed := by
    decide +kernel
  obtain ⟨_, sent⟩ := busy.checks 0 rfl
    (.sends (work 95) .memory [.disk] time time starts call hcall) (Nat.le_refl 1) (.other rfl)
  obtain ⟨_, answered⟩ := sent.checks 0 rfl
    (.accepts (work 95) .memory [.disk] time call accepted accepted_ok) (Nat.le_refl 1)
    (.other rfl)
  obtain ⟨tries', alerted⟩ := answered.checks 0 rfl
    (.records (work 95) .memory [.disk] time time time) (Nat.le_refl 1) (.other rfl)
  exact ⟨tries, tries', idle, alerted, System.Meets.metric_independent idle alerted rfl⟩

end Sample

/-! ## The script of a run -/

namespace System

def Awaits (s : System) (m : Metric) : Prop :=
  ∃ (j : Nat) (work : Work) (rest : List Metric) (time : Instant) (call : Http.Call),
    s.tasks[j]? = some (.check (.awaiting work m rest time call))

variable {base : String} {config : TelegramConfig} {s : System} {m : Metric} {d : Deed}

theorem Awaits.before (h : (d.result s).Awaits m) (does : d.Does base s) :
    s.Awaits m ∨ ∃ work rest, d.before = .check (.examining work m rest) := by
  obtain ⟨j, work, rest, time, call, hj⟩ := h
  obtain ⟨-, heq⟩ | ⟨-, hold⟩ := does.tasks_result hj
  · exact .inr ⟨work, rest, (does.examining_of_awaiting heq.symm).1⟩
  · exact .inl ⟨j, work, rest, time, call, hold⟩

/-- The system meets a script. The cue of an alert whose answer is awaited may expect either
outcome. -/
def Scripted (base : String) (config : TelegramConfig) (m : Metric) (s : System) : Prop :=
  ∀ expected : Bool, ∃ script tries, Meets base config m s script tries ∧
    (s.Awaits m → lastAccepted script = expected)

namespace Scripted

variable {work : Work} {rest : List Metric} {time : Instant} {call : Http.Call}

theorem examined (h : Scripted base config m s) (does : d.Does base s) (serial : s.Serial)
    (serial' : (d.result s).Serial) (hb : d.before = .check (.examining work m rest)) :
    Scripted base config m (d.result s) := by
  intro expected
  obtain ⟨script, tries, meets, -⟩ := h expected
  obtain ⟨c', ha, moved⟩ := does.movedFrom hb
  obtain ⟨now, attempt, event, ⟨call, rfl⟩ | quiet⟩ := moved.of_examining
  · obtain ⟨tries', meets'⟩ := meets.plays does serial'
      (.turns work rest now attempt attempt expected hb event fun _ => ⟨rfl, fun _ => ⟨call, ha⟩⟩)
    exact ⟨_, tries', meets', fun _ => lastAccepted_turn ..⟩
  · obtain ⟨tries', meets'⟩ := meets.plays does serial'
      (.turns work rest now attempt attempt false hb event fun _ => ⟨rfl, nofun⟩)
    refine ⟨_, tries', meets', fun ⟨j, work', rest', time, call, hj⟩ => ?_⟩
    obtain ⟨-, heq⟩ | ⟨hne, hold⟩ := does.tasks_result hj
    · rw [ha] at heq
      exact (quiet work' rest' time call (Task.check.inj heq).symm).elim
    · exact (hne (serial.unique hold (hb ▸ does.here) rfl rfl)).elim

theorem answered (h : Scripted base config m s) (does : d.Does base s) (serial : s.Serial)
    (serial' : (d.result s).Serial) (hb : d.before = .check (.awaiting work m rest time call)) :
    Scripted base config m (d.result s) := by
  intro expected
  obtain ⟨c', ha, moved⟩ := does.movedFrom hb
  obtain ⟨answer, event⟩ := moved.answered_of_awaiting
  -- the script is the one that had expected this outcome
  obtain ⟨script, tries, meets, hlast⟩ := h (Delivery.outcome answer).isOk
  have hlast' := hlast ⟨d.task, work, rest, time, call, hb ▸ does.here⟩
  obtain ⟨tries', meets'⟩ := meets.plays does serial'
    (.answers work rest time call answer hb event (by
      rw [hlast']
      cases Delivery.outcome answer <;> simp [Except.isOk, Except.toBool]))
  refine ⟨_, tries', meets', fun ⟨j, work', rest', time', call', hj⟩ => ?_⟩
  obtain ⟨-, heq⟩ | ⟨hne, hold⟩ := does.tasks_result hj
  · obtain ⟨hb', -⟩ := does.examining_of_awaiting heq.symm
    rw [hb] at hb'
    cases hb'
  · exact (hne (serial.unique hold (hb ▸ does.here) rfl rfl)).elim

end Scripted

/-- Every run in which checks do not overlap meets a script. -/
theorem Run.scripted {log : List Deed} (run : Run base config Serial s log) (m : Metric) :
    Scripted base config m s := by
  induction run with
  | initial =>
    refine fun _ => ⟨[], [], .initial, ?_⟩
    rintro ⟨j, work, rest, time, call, hj⟩
    cases hj
  | begins _ t fresh serial ih =>
    intro expected
    obtain ⟨script, tries, meets, hlast⟩ := ih expected
    refine ⟨script, tries, meets.begins t fresh serial, ?_⟩
    rintro ⟨j, work, rest, time, call, hj⟩
    obtain hold | ⟨-, rfl⟩ := getElem?_snoc.mp hj
    · exact hlast ⟨j, work, rest, time, call, hold⟩
    · cases fresh
  | @steps s log run d does serial ih =>
    -- a deed that neither begins nor answers an alert of the metric keeps what is expected
    have keeps {cues : List Cue} (plays : ∀ script, d.Plays m script cues)
        (kept : ∀ script, lastAccepted (script ++ cues) = lastAccepted script)
        (hb : ∀ work rest, d.before ≠ .check (.examining work m rest)) :
        Scripted base config m (d.result s) := by
      intro expected
      obtain ⟨script, tries, meets, hlast⟩ := ih expected
      obtain ⟨tries', meets'⟩ := meets.plays does serial (plays script)
      refine ⟨_, tries', meets', fun hawaits => ?_⟩
      obtain hold | ⟨work, rest, hb'⟩ := hawaits.before does
      · rw [kept, hlast hold]
      · exact (hb work rest hb').elim
    cases hconcerns : d.before.concerns m with
    | false =>
      refine keeps (fun _ => .other hconcerns) (fun script => by rw [List.append_nil]) ?_
      intro work rest hb
      rw [hb] at hconcerns
      exact of_decide_eq_false hconcerns rfl
    | true =>
      obtain ⟨new, hb⟩ | hb | ⟨work, rest, hb⟩ | ⟨work, rest, time, call, hb⟩ | hchanges :=
        Task.concerns_cases hconcerns
      · refine keeps (fun _ => .replaces new hb) (fun _ => lastAccepted_replaced ..) ?_
        rw [hb]
        nofun
      · refine keeps (fun _ => .reads hb) lastAccepted_read ?_
        rw [hb]
        nofun
      · exact ih.examined does run.fine serial hb
      · exact ih.answered does run.fine serial hb
      · refine keeps (fun _ => .changes hchanges) lastAccepted_change ?_
        intro work rest hb
        rw [hb] at hchanges
        obtain ⟨_, _, hb'⟩ | ⟨_, _, _, hb'⟩ := hchanges <;> cases hb'

end System

end HostAlert.Manager
