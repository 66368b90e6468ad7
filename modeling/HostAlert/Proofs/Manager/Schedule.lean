import HostAlert.Proofs.Manager.Run

/-!
# Building runs

`Run.checks`, `Run.begins`, `Run.updates` extend a run by what one task does, where the guards of
`Check.Moved` allow it. `Sample` is a host whose CPU usage alone is above its threshold, under
settings that are deliverable; `Sample.run_sent` is the run in which its alert goes out, and
`Sample.run_finished` the one in which the alert is accepted and the check comes to its end.
-/

namespace HostAlert.Manager

namespace System.Run

variable {base : String} {config : TelegramConfig} {ok : System → Prop} {s : System}
  {log : List Deed}

theorem checks (run : Run base config ok s log) (i : Nat) {c c' : Check} {e : Event}
    {left : Shared} (here : s.tasks[i]? = some (.check c))
    (moved : Check.Moved base s.shared c e left c') (fine : ok ⟨left, s.tasks.set i (.check c')⟩) :
    Run base config ok ⟨left, s.tasks.set i (.check c')⟩
      (log ++ [⟨i, e, s.shared, .check c, left, .check c'⟩]) := by
  have hstep : (Task.check c).step base s.shared e = some (left, .check c') :=
    Option.map_eq_some_iff.mpr ⟨(left, c'), Check.step_of_moved moved, rfl⟩
  exact run.steps ⟨i, e, s.shared, .check c, left, .check c'⟩ ⟨rfl, here, hstep⟩ fine

theorem updates (run : Run base config ok s log) (new : TelegramConfig) (now attempt : Instant)
    (begun : ok ⟨s.shared, s.tasks ++ [.update new]⟩)
    (fine : ok ⟨s.shared.replaceConfig new, s.tasks ++ [.updated]⟩) :
    Run base config ok ⟨s.shared.replaceConfig new, s.tasks ++ [.updated]⟩
      (log ++ [⟨s.tasks.length, .enter now attempt, s.shared, .update new,
        s.shared.replaceConfig new, .updated⟩]) := by
  have hset : (s.tasks ++ [Task.update new]).set s.tasks.length .updated =
      s.tasks ++ [.updated] := by
    rw [List.set_append_right _ _ (Nat.le_refl _), Nat.sub_self, List.set_cons_zero]
  have hrun := (run.begins (.update new) rfl begun).steps
    ⟨s.tasks.length, .enter now attempt, s.shared, .update new, s.shared.replaceConfig new,
      .updated⟩
    ⟨rfl, List.getElem?_concat_length, rfl⟩
  rw [Deed.result, hset] at hrun
  exact hrun fine

theorem mono {ok' : System → Prop} (run : Run base config ok s log) (h : ∀ s, ok s → ok' s) :
    Run base config ok' s log := by
  induction run with
  | initial fine => exact .initial (h _ fine)
  | begins _ t fresh fine ih => exact ih.begins t fresh (h _ fine)
  | steps _ d does fine ih => exact ih.steps d does (h _ fine)

end System.Run

/-! ## A breach of one metric -/

namespace Sample

def base : String := "http://h"

def settings : TelegramConfig :=
  { TelegramConfig.initial with enabled := true, botToken := "1:a", chatId := "7" }

def silent : TelegramConfig := { settings with enabled := false }

def readings (memory : Float) : Snapshot :=
  { Snapshot.empty with cpuUsage := 95, memoryUsage := memory, diskUsage := 1 }

def work (memory : Float) : Work := ⟨settings, readings memory⟩

def time : Instant := ⟨0⟩

def later : Instant := time.after (.ofSeconds 120)

def accepted : Http.Answer := .reply ⟨200, [], true⟩

theorem accepted_ok : Delivery.outcome accepted = .ok () := rfl

theorem deliverable : settings.isDeliverable = true := by decide

theorem exists_plan (info : Snapshot) (m : Metric) :
    ∃ call, Delivery.prepare base settings (Check.alertText ⟨settings, info⟩ m) = .send call :=
  Delivery.exists_call_of_url (by decide +kernel) (Message.trim_alert settings m _ _ info)

theorem evaluation_starts (memory : Float) :
    Check.evaluation (work memory) .cpu .never time = .startsToExceed := by
  have h : Evaluation.evaluate 95 90 false none settings.cooldown = .startsToExceed := by
    decide +kernel
  exact h

theorem evaluation_quiet {m : Metric} (hm : m ≠ .cpu) :
    Check.evaluation (work 1) m .never time = .ok := by
  cases m with
  | cpu => exact absurd rfl hm
  | memory => decide +kernel
  | disk => decide +kernel

/-- The deeds of the check up to its first request. -/
def sending (memory : Float) (call : Http.Call) : List Deed :=
  [⟨0, .enter time time, .initial settings, .check .begun, .initial settings,
      .check (.collecting settings)⟩,
    ⟨0, .collected (readings memory), .initial settings, .check (.collecting settings),
      .initial settings, .check (.examining (work memory) .cpu [.memory, .disk])⟩,
    ⟨0, .enter time time, .initial settings,
      .check (.examining (work memory) .cpu [.memory, .disk]), .initial settings,
      .check (.awaiting (work memory) .cpu [.memory, .disk] time call)⟩]

/-- The alert of the CPU goes out. -/
theorem run_sent (memory : Float) : ∃ call, System.Run base settings System.Serial
    ⟨.initial settings, [.check (.awaiting (work memory) .cpu [.memory, .disk] time call)]⟩
    (sending memory call) := by
  obtain ⟨call, hcall⟩ := exists_plan (readings memory) .cpu
  have sends : Check.Moved base (.initial settings)
      (.examining (work memory) .cpu [.memory, .disk]) (.enter time time) (.initial settings)
      (.awaiting (work memory) .cpu [.memory, .disk] time call) := by
    refine .sends (work memory) .cpu [.memory, .disk] time time ?_ call hcall
    exact evaluation_starts memory
  have begun : System.Run base settings System.Serial ⟨.initial settings, [.check .begun]⟩ [] :=
    (System.Run.initial (Nat.zero_le 1)).begins (.check .begun) rfl (Nat.zero_le 1)
  have copied := begun.checks 0 rfl (.copies time time deliverable) (Nat.le_refl 1)
  have collected := copied.checks 0 rfl (.collects settings (readings memory)) (Nat.le_refl 1)
  exact ⟨call, collected.checks 0 rfl sends (Nat.le_refl 1)⟩

def recorded : Shared := (Shared.initial settings).recordDelivery .cpu time

/-- The deeds of the check from the answer to its end. -/
def finishing (call : Http.Call) : List Deed :=
  [⟨0, .answered accepted, .initial settings,
      .check (.awaiting (work 1) .cpu [.memory, .disk] time call), .initial settings,
      .check (.recording (work 1) .cpu [.memory, .disk] time)⟩,
    ⟨0, .enter time time, .initial settings,
      .check (.recording (work 1) .cpu [.memory, .disk] time), recorded,
      .check (.examining (work 1) .memory [.disk])⟩,
    ⟨0, .enter time time, recorded, .check (.examining (work 1) .memory [.disk]), recorded,
      .check (.examining (work 1) .disk [])⟩,
    ⟨0, .enter time time, recorded, .check (.examining (work 1) .disk []), recorded,
      .check .finished⟩]

theorem moved_of_ok {s : Shared} {work : Work} {m : Metric}
    (hok : Check.evaluation work m (s.alerts.get m) time = .ok) (rest : List Metric) :
    Check.Moved base s (.examining work m rest) (.enter time time) s
      (Check.proceed work rest) := by
  refine .passes work m rest time time ?_ ?_
  · rw [hok]
    rfl
  · rw [hok]
    exact Evaluation.noConfusion

theorem moved_passes {s : Shared} {m : Metric} (hm : m ≠ .cpu)
    (hs : s.alerts.get m = .never) (rest : List Metric) :
    Check.Moved base s (.examining (work 1) m rest) (.enter time time) s
      (Check.proceed (work 1) rest) := by
  refine moved_of_ok ?_ rest
  rw [hs, evaluation_quiet hm]

/-- The alert is accepted and recorded, and the check comes to its end. -/
theorem run_finished : ∃ call, System.Run base settings System.Serial
    ⟨recorded, [.check .finished]⟩ (sending 1 call ++ finishing call) := by
  obtain ⟨call, sent⟩ := run_sent 1
  have accept := sent.checks 0 rfl
    (.accepts (work 1) .cpu [.memory, .disk] time call accepted accepted_ok) (Nat.le_refl 1)
  have record := accept.checks 0 rfl (.records (work 1) .cpu [.memory, .disk] time time time)
    (Nat.le_refl 1)
  have memory := record.checks 0 rfl (moved_passes (by decide) rfl [.disk]) (Nat.le_refl 1)
  exact ⟨call, memory.checks 0 rfl (moved_passes (by decide) rfl []) (Nat.zero_le 1)⟩

/-- Switching notifications off and on again after an alert leaves its time. -/
def resumed : Shared := (recorded.replaceConfig silent).replaceConfig settings

/-- After notifications were off and once the cooldown is over, the CPU is alerted again. -/
theorem run_again : ∃ s log a b, System.Run base settings System.Serial s log ∧
    log[3]? = some a ∧ a.Accepts .cpu time ∧ log[12]? = some b ∧ b.Accepts .cpu later := by
  obtain ⟨call, finished⟩ := run_finished
  obtain ⟨call', hcall⟩ := exists_plan (readings 1) .cpu
  have sends : Check.Moved base resumed (.examining (work 1) .cpu [.memory, .disk])
      (.enter later later) resumed (.awaiting (work 1) .cpu [.memory, .disk] later call') := by
    refine .sends (work 1) .cpu [.memory, .disk] later later ?_ call' hcall
    decide +kernel
  have off := finished.updates silent time time (Nat.zero_le 1) (Nat.zero_le 1)
  have on := off.updates settings time time (Nat.zero_le 1) (Nat.zero_le 1)
  have begun := on.begins (.check .begun) rfl (Nat.zero_le 1)
  have copied := begun.checks 3 rfl (.copies time time deliverable) (Nat.le_refl 1)
  have collected := copied.checks 3 rfl (.collects settings (readings 1)) (Nat.le_refl 1)
  have sent := collected.checks 3 rfl sends (Nat.le_refl 1)
  have answered := sent.checks 3 rfl
    (.accepts (work 1) .cpu [.memory, .disk] later call' accepted accepted_ok) (Nat.le_refl 1)
  exact ⟨_, _, _, _, answered, rfl, ⟨work 1, [.memory, .disk], call, accepted, rfl, rfl, rfl⟩,
    rfl, ⟨work 1, [.memory, .disk], call', accepted, rfl, rfl, rfl⟩⟩

end Sample

end HostAlert.Manager
