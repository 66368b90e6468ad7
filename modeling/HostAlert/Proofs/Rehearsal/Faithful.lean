import HostAlert.Proofs.Control.Writers
import HostAlert.Proofs.Manager.Turn
import Mathlib.Data.List.Perm.Basic
import Mathlib.Data.List.Perm.Subperm

/-!
# Rehearsals of a manager

A session decides by its clock which task makes the next step, but it does nothing that a `System`
cannot do: whatever is done with a session, its shared state is that of a system that can be
reached, in which the check of its loop is in progress (`Session.Reach.exists_system`). So what is
proved of all these systems holds of every rehearsal, also where the check of the loop overlaps
another one. `Session.Faithful` says this of a session with the tasks that go on beside its loop.
-/

namespace HostAlert

namespace Manager

/-- A system that can be reached has the shared state, and the tasks are in progress in it. -/
def InProgress (base : String) (config : TelegramConfig) (shared : Shared) (tasks : List Task) :
    Prop :=
  ∃ system, System.Reach base config system ∧ system.shared = shared ∧ tasks.Subperm system.tasks

namespace InProgress

variable {base : String} {config : TelegramConfig} {shared shared' : Shared}
  {tasks tasks' : List Task} {t t' : Task} {e : Event}

theorem fewer (h : InProgress base config shared tasks) (sub : tasks'.Subperm tasks) :
    InProgress base config shared tasks' := by
  obtain ⟨system, reach, hshared, present⟩ := h
  exact ⟨system, reach, hshared, sub.trans present⟩

theorem begins (h : InProgress base config shared tasks) (fresh : t.isFresh) :
    InProgress base config shared (t :: tasks) := by
  obtain ⟨system, reach, hshared, present⟩ := h
  refine ⟨_, .move reach (.begins system t fresh), hshared, ?_⟩
  exact ((List.subperm_cons t).2 present).trans (List.perm_append_singleton t _).symm.subperm

/-- A task in progress makes a step. -/
theorem steps (h : InProgress base config shared (t :: tasks))
    (moved : t.step base shared e = some (shared', t')) :
    InProgress base config shared' (t' :: tasks) := by
  obtain ⟨system, reach, rfl, present⟩ := h
  obtain ⟨i, hi, rfl⟩ := List.getElem_of_mem (present.subset List.mem_cons_self)
  refine ⟨_, .move reach (.steps system i _ t' e shared' (List.getElem?_eq_getElem hi) moved),
    rfl, ?_⟩
  -- the others are in progress behind the one that steps
  have others : tasks.Subperm (system.tasks.eraseIdx i) :=
    (List.subperm_cons _).1 (present.trans (List.getElem_cons_eraseIdx_perm hi).symm.subperm)
  exact ((List.subperm_cons t').2 others).trans (List.set_perm_cons_eraseIdx hi t').symm.subperm

/-- The settings may be replaced at any time. -/
theorem replaced (h : InProgress base config shared tasks) (config' : TelegramConfig) :
    InProgress base config (shared.replaceConfig config') tasks := by
  have updating := h.begins (t := .update config') rfl
  have updated := updating.steps (e := .enter ⟨0⟩ ⟨0⟩) rfl
  exact updated.fewer (List.sublist_cons_self ..).subperm

end InProgress

/-- The check that a loop is in. -/
def Worker.tasks (w : Worker) : List Task :=
  match w.loop with
  | .checking c => [.check c]
  | _ => []

namespace Worker

variable {base : String} {config : TelegramConfig} {shared shared' : Shared} {rest : List Task}
  {w w' : Worker} {e : Event}

theorem inProgress_wake (h : InProgress base config shared (w.tasks ++ rest)) :
    InProgress base config shared (w.wake.tasks ++ rest) := by
  unfold wake
  split
  · next hloop =>
    simp only [tasks, hloop] at h
    exact h.begins rfl
  · exact h

theorem inProgress_step (h : InProgress base config shared (w.tasks ++ rest))
    (moved : w.step base shared e = some (shared', w')) :
    InProgress base config shared' (w'.tasks ++ rest) := by
  unfold step at moved
  split at moved
  · next c hloop =>
    simp only [tasks, hloop] at h
    obtain ⟨⟨shared'', c'⟩, hstep, hresult⟩ := Option.map_eq_some_iff.1 moved
    cases hresult
    have after : InProgress base config shared' (.check c' :: rest) :=
      h.steps (e := e) (by simp only [Task.step, hstep, Option.map_some])
    unfold tasks
    dsimp only
    split
    · next hchecking =>
      split at hchecking
      · cases hchecking
      · cases hchecking
        exact after
    · exact after.fewer (List.sublist_cons_self ..).subperm
  · cases moved

theorem tasks_rest (w : Worker) (shared : Shared) : (w.rest shared).tasks = w.tasks := by
  unfold rest
  split
  · next hloop => simp only [tasks, hloop]
  · rfl

theorem tasks_heed (w : Worker) : w.heed.tasks = w.tasks := by
  unfold heed
  split
  · next hloop =>
    split
    · simp only [tasks, hloop]
    · rfl
  · rfl

end Worker

namespace Supervisor

/-- The check that the registered worker is in. -/
def tasks (s : Supervisor) : List Task :=
  s.current.elim [] Worker.tasks

variable {s : Supervisor} {w : Worker} {i : Nat}

theorem tasks_of_current (h : s.current = some w) : s.tasks = w.tasks := by
  rw [tasks, h, Option.elim_some]

theorem tasks_of_free (h : s.registered = none) : s.tasks = [] := by
  rw [tasks, current, h, Option.bind_none, Option.elim_none]

/-- A change of the registered worker that keeps it in its check keeps the tasks. -/
theorem tasks_modify {f : Worker → Worker} (h : s.registered = some i)
    (keeps : ∀ w, (f w).tasks = w.tasks) : (s.modify i f).tasks = s.tasks := by
  unfold tasks current modify
  rw [h, Option.bind_some, Option.bind_some, List.getElem?_modify_eq]
  cases s.workers[i]? with
  | none => rfl
  | some w => exact keeps w

/-- The registered worker, if there is one, becomes another. -/
theorem tasks_replaced (s : Supervisor) (w : Worker) :
    (s.modifyCurrent fun _ => w).tasks.Sublist w.tasks := by
  unfold modifyCurrent
  split
  · next hfree =>
    rw [tasks_of_free hfree]
    exact List.nil_sublist _
  · next i hregistered =>
    unfold tasks current modify
    rw [hregistered, Option.bind_some, List.getElem?_modify_eq]
    cases s.workers[i]? with
    | none => exact List.nil_sublist _
    | some => exact List.Sublist.refl _

theorem registered_beginStop (s : Supervisor) : s.beginStop.registered = none := by
  cases hregistered : s.registered with
  | none => rwa [beginStop_of_free hregistered]
  | some i => rw [beginStop_of_registered hregistered]

theorem registered_endStop (s : Supervisor) : s.endStop.registered = s.registered := by
  obtain hsame | ⟨i, w, -, -, -, hends⟩ := s.endStop_cases
  · rw [hsame]
  · rw [hends]

end Supervisor

end Manager

namespace Rehearsal.Session

open Manager Control

/-- The manager can have come to the shared state of the session, with the check of its loop and
these tasks beside it in progress. -/
structure Faithful (base : String) (config : TelegramConfig) (tasks : List Task) (s : Session) :
    Prop where
  sameBase : s.base = base
  inProgress : InProgress base config s.shared (s.supervisor.tasks ++ tasks)

variable {base : String} {config : TelegramConfig} {tasks tasks' : List Task} {s s' : Session}
  {shared : Shared} {w : Want} {worker : Worker} {t t' : Task} {e : Event}

namespace Faithful

theorem congr (h : s.Faithful base config tasks) (hbase : s'.base = s.base)
    (hshared : s'.shared = s.shared) (htasks : s'.supervisor.tasks = s.supervisor.tasks) :
    s'.Faithful base config tasks :=
  ⟨hbase.trans h.sameBase, by rw [hshared, htasks]; exact h.inProgress⟩

theorem fewer (h : s.Faithful base config tasks) (sub : tasks'.Sublist tasks) :
    s.Faithful base config tasks' :=
  ⟨h.sameBase, h.inProgress.fewer (List.Sublist.append_left sub _).subperm⟩

theorem begins (h : s.Faithful base config tasks) (fresh : t.isFresh) :
    s.Faithful base config (t :: tasks) :=
  ⟨h.sameBase, (h.inProgress.begins fresh).fewer List.perm_middle.subperm⟩

/-- A task beside the loop makes a step. -/
theorem steps (h : s.Faithful base config (t :: tasks))
    (moved : t.step s.base s.shared e = some (shared, t')) :
    { s with shared := shared }.Faithful base config (t' :: tasks) := by
  obtain ⟨rfl, inProgress⟩ := h
  have first : InProgress s.base config s.shared (t :: (s.supervisor.tasks ++ tasks)) :=
    inProgress.fewer List.perm_middle.symm.subperm
  exact ⟨rfl, (first.steps moved).fewer List.perm_middle.subperm⟩

end Faithful

/-- What is waited for leaves the supervisor alone, and touches the shared state only if the
settings are replaced meanwhile. -/
theorem supply_cases (h : s.supply w = some (s', e)) :
    s'.base = s.base ∧ s'.supervisor = s.supervisor ∧
      (s'.shared = s.shared ∨ ∃ config, s'.shared = s.shared.replaceConfig config) := by
  cases w with
  | nothing => cases h
  | entry | snapshot =>
    cases h
    exact ⟨rfl, rfl, .inl rfl⟩
  | answer call =>
    cases h
    refine ⟨rfl, rfl, ?_⟩
    change ((s.peer.take call).2.2.map s.shared.replaceConfig).getD s.shared = _ ∨ ∃ config,
      ((s.peer.take call).2.2.map s.shared.replaceConfig).getD s.shared = _
    cases (s.peer.take call).2.2 with
    | none => exact .inl rfl
    | some config => exact .inr ⟨config, rfl⟩

namespace Faithful

theorem supply (h : s.Faithful base config tasks) (hs : s.supply w = some (s', e)) :
    s'.Faithful base config tasks := by
  obtain ⟨hbase, hsupervisor, hshared⟩ := supply_cases hs
  obtain hshared | ⟨config', hshared⟩ := hshared
  · exact h.congr hbase hshared (congrArg Supervisor.tasks hsupervisor)
  · exact ⟨hbase.trans h.sameBase, by
      rw [hshared, hsupervisor]; exact h.inProgress.replaced config'⟩

/-! ### The loop -/

theorem settle (hbase : s.base = base)
    (h : InProgress base config s.shared (worker.tasks ++ tasks)) :
    (s.settle worker).Faithful base config tasks := by
  refine ⟨hbase, h.fewer (List.Sublist.append_right ?_ tasks).subperm⟩
  have sub := s.supervisor.tasks_replaced (worker.rest s.shared).heed
  rwa [Worker.tasks_heed, Worker.tasks_rest] at sub

theorem turn (h : s.Faithful base config tasks) : s.turn.Faithful base config tasks := by
  unfold Session.turn
  split
  · exact h
  · next worker hcurrent =>
    split
    · exact h
    · next s' worker' hgive =>
      obtain ⟨s₁, e, shared, hsupply, hstep, rfl⟩ := of_give hgive
      obtain ⟨-, hsupervisor, -⟩ := supply_cases hsupply
      have waited : (s.waitUntil s.turnAt).Faithful base config tasks := h.congr rfl rfl rfl
      obtain ⟨rfl, inProgress⟩ := waited.supply hsupply
      have htasks : s₁.supervisor.tasks = worker.tasks :=
        Supervisor.tasks_of_current (hsupervisor ▸ hcurrent)
      rw [htasks] at inProgress
      exact settle rfl (Worker.inProgress_step (Worker.inProgress_wake inProgress) hstep)

theorem advanceTo (h : s.Faithful base config tasks) (target : Instant) (turns : Nat) :
    (advanceTo target turns s).Faithful base config tasks := by
  induction turns generalizing s with
  | zero => exact h.congr rfl rfl rfl
  | succ turns ih =>
    unfold Session.advanceTo
    split
    · exact ih h.turn
    · exact h.congr rfl rfl rfl

theorem advance (h : s.Faithful base config tasks) (d : Span) :
    (s.advance d).Faithful base config tasks :=
  h.advanceTo _ _

theorem endCheckFor (h : s.Faithful base config tasks) (turns : Nat) :
    (endCheckFor turns s).Faithful base config tasks := by
  induction turns generalizing s with
  | zero => exact h
  | succ turns ih =>
    unfold Session.endCheckFor
    split
    · exact ih h.turn
    · exact h

theorem endCheck (h : s.Faithful base config tasks) : s.endCheck.Faithful base config tasks :=
  h.endCheckFor _

theorem startLoop (h : s.Faithful base config tasks) :
    s.startLoop.Faithful base config tasks := by
  unfold Session.startLoop
  split
  · exact h
  · exact settle h.sameBase (h.inProgress.fewer (List.sublist_append_right ..).subperm)

theorem stopLoop (h : s.Faithful base config tasks) : s.stopLoop.Faithful base config tasks := by
  have ended := h.endCheck
  refine ⟨ended.sameBase, ?_⟩
  have hfree : s.stopLoop.supervisor.registered = none := by
    refine (Supervisor.registered_endStop _).trans ?_
    split <;> exact Supervisor.registered_beginStop _
  rw [Supervisor.tasks_of_free hfree]
  exact ended.inProgress.fewer (List.sublist_append_right ..).subperm

theorem shutDownAll (h : s.Faithful base config tasks) :
    s.shutDownAll.Faithful base config tasks := by
  have ended := h.endCheck
  unfold Session.shutDownAll
  dsimp only
  split
  · next i hregistered =>
    have signalled : (s.endCheck.supervisor.signal i).tasks = s.endCheck.supervisor.tasks :=
      Supervisor.tasks_modify hregistered fun w => rfl
    have heeds : (s.endCheck.supervisor.signal i).registered = some i := hregistered
    exact ended.congr rfl rfl ((Supervisor.tasks_modify heeds Worker.tasks_heed).trans signalled)
  · exact ended.congr rfl rfl rfl

theorem nextCheck (h : s.Faithful base config tasks) : s.nextCheck.Faithful base config tasks :=
  h.endCheck.turn.turn

/-! ### Tasks beside the loop -/

theorem give (h : s.Faithful base config (t :: tasks))
    (hgive : s.give Task.want Task.step t = some (s', t')) :
    s'.Faithful base config (t' :: tasks) := by
  obtain ⟨s₁, e, shared, hsupply, hstep, rfl⟩ := of_give hgive
  exact (h.supply hsupply).steps hstep

theorem runFor (h : s.Faithful base config (t :: tasks)) (steps : Nat) :
    (runFor steps s t).1.Faithful base config tasks := by
  induction steps generalizing s t with
  | zero => exact h.fewer (List.sublist_cons_self ..)
  | succ steps ih =>
    unfold Session.runFor
    split
    · exact h.fewer (List.sublist_cons_self ..)
    · next s' t' hgive => exact ih (h.give hgive)

theorem run (h : s.Faithful base config tasks) (fresh : t.isFresh) :
    (s.run t).1.Faithful base config tasks :=
  (h.begins fresh).runFor _

theorem checkFor {c : Check} (h : s.Faithful base config (.check c :: tasks)) (steps : Nat) :
    (checkFor steps s c).Faithful base config tasks := by
  induction steps generalizing s c with
  | zero => exact h.fewer (List.sublist_cons_self ..)
  | succ steps ih =>
    unfold Session.checkFor
    split
    · exact h.fewer (List.sublist_cons_self ..)
    · next s' c' hgive =>
      obtain ⟨s₁, e, shared, hsupply, hstep, rfl⟩ := of_give hgive
      refine ih (((h.advance (delay c.want)).supply hsupply).steps (e := e) ?_)
      rw [Task.step, hstep, Option.map_some]

theorem runCheck (h : s.Faithful base config tasks) : s.runCheck.Faithful base config tasks :=
  checkFor (h.begins rfl) _

theorem perform (h : s.Faithful base config tasks) (wording : Json.Wording) (a : Action) :
    (s.perform wording a).1.Faithful base config tasks := by
  rw [perform_task]
  cases a with
  | respond | health | config | states => exact h
  | replace config' => exact h.run rfl
  | test message => exact h.run rfl

end Faithful

/-- What may be done with a session, and how it is left. -/
inductive Move : Session → Session → Prop
  /-- The host has other readings, or there is another peer. -/
  | meets (s : Session) (info : Snapshot) (peer : Peer) :
      Move s { s with info := info, peer := peer }
  | updates (s : Session) (config : TelegramConfig) : Move s (s.updateConfig config)
  | tests (s : Session) (message : String) : Move s (s.sendTest message).1
  | notifies (s : Session) (update : FilterUpdate) : Move s (s.notify update)
  | checks (s : Session) : Move s s.runCheck
  | serves (s : Session) (policy : Policy) (wording : Json.Wording) (r : Request) :
      Move s (s.serve policy wording r).1
  | startsLoop (s : Session) : Move s s.startLoop
  | stopsLoop (s : Session) : Move s s.stopLoop
  | shutsDown (s : Session) : Move s s.shutDownAll
  | renewsShutdown (s : Session) : Move s s.renewShutdown
  | advances (s : Session) (d : Span) : Move s (s.advance d)
  | awaitsChecks (s : Session) : Move s s.awaitTwoChecks.1
  | reports (s : Session) : Move s s.report.1

/-- The sessions that a rehearsal can come to. -/
inductive Reach (base : String) (config : TelegramConfig) : Session → Prop
  | start (info : Snapshot) (peer : Peer) (now : Instant) :
      Reach base config (.start config base info peer now)
  | move {s s' : Session} : Reach base config s → Move s s' → Reach base config s'

theorem Faithful.move (h : s.Faithful base config tasks) (move : Move s s') :
    s'.Faithful base config tasks := by
  cases move with
  | meets | renewsShutdown => exact h.congr rfl rfl rfl
  | updates | notifies => exact h.run rfl
  | tests message => exact sendTest_eq s message ▸ h.run rfl
  | checks => exact h.runCheck
  | serves policy wording r => exact h.perform wording (plan policy wording r).action
  | startsLoop => exact h.startLoop
  | stopsLoop => exact h.stopLoop
  | shutsDown => exact h.shutDownAll
  | advances d => exact h.advance d
  | awaitsChecks => exact h.nextCheck.nextCheck
  | reports =>
    have told : { s with peer := { s.peer with seen := [] }, collected := false }.Faithful base
        config tasks := h.congr rfl rfl rfl
    exact told.advance reportTime

theorem Reach.faithful (h : s.Reach base config) : s.Faithful base config [] := by
  induction h with
  | start => exact ⟨rfl, _, .initial, rfl, List.nil_subperm⟩
  | move _ move ih => exact ih.move move

/-- Whatever is done with a session, a manager can come to its shared state while the check of its
loop is in progress. -/
theorem Reach.exists_system (h : s.Reach base config) :
    ∃ system, System.Reach base config system ∧ system.shared = s.shared ∧
      s.supervisor.tasks.Subperm system.tasks := by
  have inProgress := h.faithful.inProgress
  rwa [List.append_nil] at inProgress

end Rehearsal.Session

end HostAlert
