import HostAlert.Proofs.Delivery.Acknowledged
import HostAlert.Proofs.Manager.Episode

/-!
# Alerts that were acknowledged

An alert whose answer acknowledges it is recorded, and its metric is active when it is looked at
next, unless notifications are switched off in between; so it is not alerted again then
(`System.Run.recorded_once_acknowledged`).
-/

namespace HostAlert.Manager

/-- Nothing after a position of the history switches notifications off or looks at the metric. -/
def Undisturbed (log : List Deed) (m : Metric) (position : Nat) : Prop :=
  ∀ (k : Nat) (f : Deed), position < k → log[k]? = some f →
    ¬ f.Switches false ∧ ∀ work, ¬ f.Examines work m

namespace Standing

variable {base : String} {s : System} {m : Metric} {task : Nat} {x : Deed}

/-- An alert that stands is recorded as it was accepted, -/
theorem left_of_records (h : Standing s m task) (does : x.Does base s) {time : Instant}
    (hrec : x.Records m time) : x.left.alerts.get m = ⟨true, some time⟩ := by
  obtain ⟨work, rest, hrec⟩ := hrec
  have hhere : s.tasks[x.task]? = some (.check (.recording work m rest time)) :=
    hrec ▸ does.here
  obtain ⟨hon, -⟩ | ⟨-, hquiet⟩ := h
  · obtain ⟨c', -, moved⟩ := does.movedFrom hrec
    rw [moved.of_recording.1, does.found, Shared.recordDelivery, hon, if_pos rfl,
      AlertStates.get_markActive, if_pos rfl]
  · exact (hquiet x.task _ hhere rfl).elim

/-- and is found active where checks do not overlap. -/
theorem active_of_examines (h : Standing s m task) (serial : s.Serial) (does : x.Does base s)
    {work : Work} (hexam : x.Examines work m) : (x.found.alerts.get m).active = true := by
  obtain ⟨rest, hexam⟩ := hexam
  have hhere : s.tasks[x.task]? = some (.check (.examining work m rest)) :=
    hexam ▸ does.here
  obtain ⟨-, work₁, rest₁, time₁, hrec⟩ | ⟨hactive, -⟩ := h
  · -- two checks would be under way
    have htask := serial.unique hrec hhere rfl rfl
    rw [htask, hhere] at hrec
    cases hrec
  · exact does.found ▸ hactive

end Standing

namespace System.Run

variable {base : String} {config : TelegramConfig} {s : System} {log : List Deed} {m : Metric}

/-- An accepted alert stands while nothing disturbs it. -/
theorem standing_of_accepted (run : Run base config Serial s log) {i : Nat} {a : Deed}
    {time : Instant} (ha : log[i]? = some a) (hacc : a.Accepts m time)
    (on : a.found.config.enabled = true) (still : Undisturbed log m i) :
    Standing s m a.task := by
  induction run with
  | initial => cases ha
  | begins _ t fresh _ ih => exact (ih ha still).begins fresh
  | @steps s₁ log₁ run₁ d does serial ih =>
    obtain hold | ⟨rfl, rfl⟩ := getElem?_snoc.mp ha
    · have before : Undisturbed log₁ m i := fun k f hk hf =>
        still k f hk (getElem?_snoc_of_getElem? hf)
      obtain hreset | hstands := (ih hold before).step run₁.fine does
      · obtain ⟨hon, hquiet⟩ := still log₁.length d (lt_of_getElem? hold)
          (getElem?_snoc.mpr (.inr ⟨rfl, rfl⟩))
        obtain hoff | ⟨work, hexam, -⟩ := hreset
        · exact (hon hoff).elim
        · exact (hquiet work hexam).elim
      · exact hstands
    · obtain ⟨work, rest, hafter⟩ := does.recording_of_accepts hacc
      have hleft : d.left.config.enabled = true := by
        obtain hsame | ⟨new, hb, -⟩ := does.enabled_left
        · rw [hsame, on]
        · obtain ⟨work', rest', call, answer, hb', -, -⟩ := hacc
          rw [hb] at hb'
          cases hb'
      refine .inl ⟨hleft, work, rest, time, ?_⟩
      rw [does.tasks_self, hafter]

/-- An alert whose answer arrives whole, is read to its end and acknowledges it counts as delivered:
if notifications are on and nothing disturbs it, it is recorded as active, and the next check that
looks at its metric finds it active and sends no alert of it. -/
theorem recorded_once_acknowledged (run : Run base config Serial s log) {items : List Json.Item}
    {r : Http.Reply} (ack : Delivery.Acknowledges items r)
    (read : r.chunks.flatten.length ≤ Delivery.maxBody)
    (texts : ∀ i ∈ items, ∀ n ∈ i.name, Json.isSurrogate n = false) :
    (∀ (base : String) (config : TelegramConfig) (message : String),
      Text.trim message.toList ≠ [] → Delivery.prepare base config message ≠ .skip) ∧
    Delivery.outcome (.reply r) = .ok () ∧
    ∀ (i : Nat) (a : Deed) (m : Metric) (work : Work) (rest : List Metric) (time : Instant)
      (call : Http.Call), log[i]? = some a →
      a.before = .check (.awaiting work m rest time call) → a.event = .answered (.reply r) →
      a.found.config.enabled = true →
      a.after = .check (.recording work m rest time) ∧
      ∀ (j : Nat) (x : Deed), i < j → log[j]? = some x → Undisturbed (log.take j) m i →
        (x.Records m time → x.left.alerts.get m = ⟨true, some time⟩) ∧
        ∀ work, x.Examines work m →
          (x.found.alerts.get m).active = true ∧ ¬ x.Requests (some m) := by
  have hok := Delivery.outcome_of_acknowledges ack read texts
  refine ⟨fun base config message h => Delivery.prepare_ne_skip h base config, hok, ?_⟩
  intro i a m work rest time call ha hb event on
  have hacc : a.Accepts m time := ⟨work, rest, call, .reply r, hb, event, hok⟩
  constructor
  · obtain ⟨s₀, -, does, -⟩ := run.systemAt ha
    have hstep := does.moved
    rw [hb, event] at hstep
    simp only [Task.step, Check.step, hok, Option.map_some, Option.some.injEq,
      Prod.mk.injEq] at hstep
    exact hstep.2.symm
  · intro j x hij hx still
    obtain ⟨s₀, run₀, does, -⟩ := run.systemAt hx
    have stands := run₀.standing_of_accepted (getElem?_take_iff.mpr ⟨hij, ha⟩) hacc on still
    refine ⟨stands.left_of_records does, fun work hexam => ?_⟩
    have hactive := stands.active_of_examines run₀.fine does hexam
    refine ⟨hactive, ?_⟩
    rintro ⟨work₁, rest₁, time₁, call₁, hafter⟩
    rw [does.found, (does.examining_of_awaiting hafter).2] at hactive
    cases hactive

end System.Run

namespace Sample

def acknowledged : Http.Reply := ⟨200, [Delivery.echo 2], true⟩

theorem run_acknowledged : ∃ (s : System) (log : List Deed) (call : Http.Call) (a x : Deed),
    System.Run base settings System.Serial s log ∧ log[3]? = some a ∧
      a.before = .check (.awaiting (work 1) .cpu [.memory, .disk] time call) ∧
      a.event = .answered (.reply acknowledged) ∧ a.found.config.enabled = true ∧
      log[9]? = some x ∧ Undisturbed (log.take 9) .cpu 3 ∧ x.Examines (work 1) .cpu := by
  obtain ⟨call, sent⟩ := run_sent 1
  have hok : Delivery.outcome (.reply acknowledged) = .ok () :=
    Delivery.outcome_of_acknowledges (Delivery.acknowledges_echo 2) (by decide) (by decide)
  have passes : Check.Moved base recorded (.examining (work 1) .cpu [.memory, .disk])
      (.enter time time) recorded (Check.proceed (work 1) [.memory, .disk]) := by
    have hexceeding : Check.evaluation (work 1) .cpu (recorded.alerts.get .cpu) time =
        .exceeding := by
      decide +kernel
    refine .passes (work 1) .cpu [.memory, .disk] time time ?_ ?_
    · rw [hexceeding]
      rfl
    · rw [hexceeding]
      exact Evaluation.noConfusion
  have accept := sent.checks 0 rfl
    (.accepts (work 1) .cpu [.memory, .disk] time call (.reply acknowledged) hok) (Nat.le_refl 1)
  have record := accept.checks 0 rfl (.records (work 1) .cpu [.memory, .disk] time time time)
    (Nat.le_refl 1)
  have memory := record.checks 0 rfl (moved_passes (by decide) rfl [.disk]) (Nat.le_refl 1)
  have disk := memory.checks 0 rfl (moved_passes (by decide) rfl []) (Nat.zero_le 1)
  have begun := disk.begins (.check .begun) rfl (Nat.zero_le 1)
  have copied := begun.checks 1 rfl (.copies time time deliverable) (Nat.le_refl 1)
  have collected := copied.checks 1 rfl (.collects settings (readings 1)) (Nat.le_refl 1)
  have examined := collected.checks 1 rfl passes (Nat.le_refl 1)
  refine ⟨_, _, call, _, _, examined, rfl, rfl, rfl, rfl, rfl, fun k f hk hf => ?_,
    ⟨[.memory, .disk], rfl⟩⟩
  obtain ⟨hk', hf⟩ := getElem?_take_iff.mp hf
  obtain rfl | rfl | rfl | rfl | rfl : k = 4 ∨ k = 5 ∨ k = 6 ∨ k = 7 ∨ k = 8 := by omega
  all_goals
    cases hf
    exact ⟨fun ⟨_, hb, _⟩ => (by cases hb), fun _ ⟨_, hb⟩ => (by cases hb)⟩

/-- The next check finds the CPU active and does not alert it. -/
theorem active_after_acknowledged : ∃ (log : List Deed) (x : Deed), log[9]? = some x ∧
    x.Examines (work 1) .cpu ∧ (x.found.alerts.get .cpu).active = true ∧
      ¬ x.Requests (some .cpu) := by
  obtain ⟨s, log, call, a, x, run, ha, hb, event, on, hx, still, hexam⟩ := run_acknowledged
  obtain ⟨-, -, alerted⟩ := System.Run.recorded_once_acknowledged run
    (Delivery.acknowledges_echo 2) (by decide) (by decide)
  obtain ⟨-, after⟩ := alerted 3 a .cpu (work 1) [.memory, .disk] time call ha hb event on
  obtain ⟨-, quiet⟩ := after 9 x (by decide) hx still
  exact ⟨log, x, hx, hexam, quiet (work 1) hexam⟩

end Sample

end HostAlert.Manager
