import HostAlert.Proofs.Manager.Alone
import HostAlert.Proofs.Manager.Treatment
import HostAlert.Proofs.Manager.Writers

/-!
# A check that nothing disturbs

While a check is under way, tasks may begin, and reports and tests may go on: they leave the shared
state as it is. As long as no other check and no update makes a step, what happens is a
`System.Stretch` for the check, and its own deeds are a path of its steps (`Stretch.path`). From any
state it comes to its end within a fixed number of them, having alerted as the readings, the
settings and the answers say (`Stretch.check_concludes`).
-/

namespace HostAlert

theorem TelegramConfig.isDeliverable_iff {config : TelegramConfig} :
    config.isDeliverable = true ↔
      config.enabled = true ∧ config.botToken ≠ "" ∧ config.chatId ≠ "" := by
  simp [isDeliverable, hasCredentials]

namespace Manager

theorem Check.exists_takes {c : Check} (h : c ≠ .finished) : ∃ e, c.want.Takes e := by
  cases c with
  | begun | examining | clearing | recording => exact ⟨.enter ⟨0⟩ ⟨0⟩, trivial⟩
  | collecting => exact ⟨.collected .empty, trivial⟩
  | awaiting => exact ⟨.answered .failed, trivial⟩
  | finished => exact absurd rfl h

namespace System

variable {base : String} {i : Nat} {s s' : System} {log : List Deed} {c : Check}

/-- What can happen from a system on while no other check than that of the number and no update
makes a step. -/
inductive Stretch (base : String) (i : Nat) (s : System) : List Deed → System → Prop
  | starts : Stretch base i s [] s
  | begins {log : List Deed} {s' : System} (stretch : Stretch base i s log s') (t : Task)
      (fresh : t.isFresh = true) : Stretch base i s log ⟨s'.shared, s'.tasks ++ [t]⟩
  | steps {log : List Deed} {s' : System} (stretch : Stretch base i s log s') (d : Deed)
      (does : d.Does base s') (fine : d.task = i ∨ d.before.isMessage = true) :
      Stretch base i s (log ++ [d]) (d.result s')

def deedsOf (i : Nat) (log : List Deed) : List Deed :=
  log.filter fun d => d.task == i

theorem deedsOf_snoc_self (log : List Deed) (d : Deed) :
    deedsOf d.task (log ++ [d]) = deedsOf d.task log ++ [d] := by
  rw [deedsOf, List.filter_append, List.filter_cons_of_pos (by simp), List.filter_nil, ← deedsOf]

theorem deedsOf_snoc_other {d : Deed} (h : d.task ≠ i) (log : List Deed) :
    deedsOf i (log ++ [d]) = deedsOf i log := by
  rw [deedsOf, List.filter_append, List.filter_cons_of_neg (by simpa using h), List.filter_nil,
    List.append_nil, ← deedsOf]

namespace Stretch

theorem checks (stretch : Stretch base i s log s') {c c' : Check} {e : Event} {left : Shared}
    (here : s'.tasks[i]? = some (.check c)) (moved : Check.Moved base s'.shared c e left c') :
    Stretch base i s (log ++ [⟨i, e, s'.shared, .check c, left, .check c'⟩])
      ⟨left, s'.tasks.set i (.check c')⟩ := by
  have hstep : (Task.check c).step base s'.shared e = some (left, .check c') :=
    Option.map_eq_some_iff.mpr ⟨(left, c'), Check.step_of_moved moved, rfl⟩
  exact stretch.steps ⟨i, e, s'.shared, .check c, left, .check c'⟩ ⟨rfl, here, hstep⟩ (.inl rfl)

/-- The deeds of the check are its steps, and nothing happens to the shared state between them. -/
theorem path (stretch : Stretch base i s log s') (here : s.tasks[i]? = some (.check c)) :
    ∃ c', s'.tasks[i]? = some (.check c') ∧
      Check.Path base i s.shared c (deedsOf i log) s'.shared c' := by
  induction stretch with
  | starts => exact ⟨c, here, .stays _ _⟩
  | begins _ t _ ih =>
    obtain ⟨c', here', path⟩ := ih
    exact ⟨c', getElem?_snoc_of_getElem? here', path⟩
  | @steps log s' _ d does fine ih =>
    obtain ⟨c', here', path⟩ := ih
    by_cases hown : d.task = i
    · subst hown
      have hb : d.before = .check c' := Option.some.inj (does.here.symm.trans here')
      obtain ⟨c'', ha, moved⟩ := does.movedFrom hb
      refine ⟨c'', ha ▸ does.tasks_self, ?_⟩
      have hfound := does.found
      obtain ⟨task, event, found, before, left, after⟩ := d
      obtain rfl : before = .check c' := hb
      obtain rfl : after = .check c'' := ha
      obtain rfl : found = s'.shared := hfound
      rw [deedsOf_snoc_self]
      exact path.snoc moved
    · have message := fine.resolve_left hown
      have hshared : (d.result s').shared = s'.shared :=
        (does.taskMoved.shared_of_isMessage message).trans does.found
      rw [hshared, deedsOf_snoc_other hown]
      exact ⟨c', (Deed.Does.tasks_other (Ne.symm hown)).trans here', path⟩

/-- A check that nothing disturbs, from any state of the manager and whatever the clock shows, the
snapshot holds and the answers are: it has at most eleven steps to make, and makes one whenever what
it waits for comes. When it has come to its end, it alerted as its settings, the readings and the
answers say if its settings are deliverable, and did nothing at all otherwise. -/
theorem check_concludes (stretch : Stretch base i s log s')
    (begun : s.tasks[i]? = some (.check .begun)) : ∃ c, s'.tasks[i]? = some (.check c) ∧
      (deedsOf i log).length + c.left ≤ 11 ∧
      (c ≠ .finished → ∃ e, c.want.Takes e) ∧
      (∀ e, c.want.Takes e → ∃ shared c', c.step base s'.shared e = some (shared, c')) ∧
      (c = .finished →
        (s.shared.config.enabled = true ∧ s.shared.config.botToken ≠ "" ∧
            s.shared.config.chatId ≠ "" → ∃ work occasions,
          Check.Concludes base s.shared work occasions
            ((deedsOf i log).flatMap Deed.signs) s'.shared) ∧
        (¬ (s.shared.config.enabled = true ∧ s.shared.config.botToken ≠ "" ∧
            s.shared.config.chatId ≠ "") →
          (deedsOf i log).flatMap Deed.signs = [] ∧ s'.shared = s.shared)) := by
  obtain ⟨c, here, path⟩ := stretch.path begun
  refine ⟨c, here, path.length_le, Check.exists_takes, fun e takes => ?_, ?_⟩
  · obtain ⟨shared, c', moved⟩ := Check.exists_moved takes base s'.shared
    exact ⟨shared, c', Check.step_of_moved moved⟩
  · rintro rfl
    rw [← TelegramConfig.isDeliverable_iff, Bool.not_eq_true]
    exact path.concludes

end Stretch

end System

namespace Sample

def uneven : Shared := ⟨settings, ⟨.never, .never, ⟨true, some time⟩⟩⟩

theorem memory_starts : Check.evaluation (work 95) .memory .never time = .startsToExceed := by
  have h : Evaluation.evaluate 95 90 false none settings.cooldown = .startsToExceed := by
    decide +kernel
  exact h

theorem disk_clears :
    (Check.evaluation (work 95) .disk ⟨true, some time⟩ time).clears = true := by
  decide +kernel

def noted : Shared := uneven.recordDelivery .cpu time

/-- The alert of the CPU is accepted, that of the memory is not, and that of the disk is over. -/
theorem uneven_concluded : ∃ (log : List Deed) (s' : System),
    System.Stretch base 0 ⟨uneven, [.check .begun]⟩ log s' ∧
    s'.tasks[0]? = some (.check .finished) ∧
    s'.shared.alerts = ⟨⟨true, some time⟩, .never, ⟨false, some time⟩⟩ ∧
    ∃ work occasions, Check.Concludes base uneven work occasions
      ((System.deedsOf 0 log).flatMap Deed.signs) s'.shared := by
  obtain ⟨call, hcall⟩ := exists_plan (readings 95) .cpu
  obtain ⟨call', hcall'⟩ := exists_plan (readings 95) .memory
  have sendsCpu : Check.Moved base uneven (.examining (work 95) .cpu [.memory, .disk])
      (.enter time time) uneven (.awaiting (work 95) .cpu [.memory, .disk] time call) := by
    refine .sends (work 95) .cpu [.memory, .disk] time time ?_ call hcall
    exact evaluation_starts 95
  have sendsMemory : Check.Moved base noted (.examining (work 95) .memory [.disk])
      (.enter time time) noted (.awaiting (work 95) .memory [.disk] time call') := by
    refine .sends (work 95) .memory [.disk] time time ?_ call' hcall'
    exact memory_starts
  have lowersDisk : Check.Moved base noted (.examining (work 95) .disk []) (.enter time time) noted
      (.clearing (work 95) .disk []) :=
    .lowers (work 95) .disk [] time time disk_clears
  have begun : System.Stretch base 0 ⟨uneven, [.check .begun]⟩ [] _ := .starts
  have tested := begun.begins (.trial (.begun "hi")) rfl
  have copied := tested.checks rfl (.copies time time deliverable)
  have collected := copied.checks rfl (.collects settings (readings 95))
  have sent := collected.checks rfl sendsCpu
  have taken := sent.checks rfl
    (.accepts (work 95) .cpu [.memory, .disk] time call accepted accepted_ok)
  have recorded := taken.checks rfl (.records (work 95) .cpu [.memory, .disk] time time time)
  have resent := recorded.checks rfl sendsMemory
  have missed := resent.checks rfl
    (.refuses (work 95) .memory [.disk] time call' .failed .unanswered rfl)
  have lowered := missed.checks rfl lowersDisk
  have cleared := lowered.checks rfl (.clears (work 95) .disk [] time time)
  obtain ⟨c, here, -, -, -, finished⟩ := cleared.check_concludes rfl
  have hc : c = .finished := by
    cases here
    rfl
  exact ⟨_, _, cleared, rfl, rfl, (finished hc).1 (by decide)⟩

end Sample

end Manager

end HostAlert
