import HostAlert.Proofs.Control.Replacement
import HostAlert.Proofs.Manager.Writers

/-!
# Which requests change the shared state

Only a request for new settings that are accepted begins an update. Any other request begins a test
or nothing at all (`task?_of_not_accepts`), so that a session is left with the shared state that it
had, unless its peer replaces the settings meanwhile, and with one more call at most
(`Session.Undisturbed`). Together with what the tasks of a manager write in any run, these are all
writers (`System.Run.shared_by_writers`).
-/

namespace HostAlert

open Control

namespace Control

/-- The task that an action begins, unless it only reads. -/
def Action.task? : Action → Option Manager.Task
  | .replace new => some (.update new)
  | .test message => some (.trial (.begun message))
  | .respond _ | .health | .config | .states => none

/-- The request is one for new settings, and they are accepted. -/
def Policy.Accepts (p : Policy) (r : Request) : Prop :=
  p.Puts r ∧ ∃ submission config, r.Submits submission ∧ submission.validate = .ok config

variable {p : Policy} {r : Request}

theorem task?_testAction (wording : Json.Wording) (r : Request) :
    (testAction wording r).task? = none ∨
      ∃ message, (testAction wording r).task? = some (.trial (.begun message)) := by
  unfold testAction
  split
  · exact .inl rfl
  · split
    · exact .inr ⟨"", rfl⟩
    · split
      · exact .inl rfl
      · next t _ => exact .inr ⟨t.message, rfl⟩

theorem task?_replaceAction (h : ∀ submission config, r.Submits submission →
    submission.validate ≠ .ok config) (wording : Json.Wording) :
    (replaceAction wording r).task? = none := by
  obtain ⟨submission, config, submits, valid⟩ | ⟨submission, refusal, submits, invalid⟩ | unread :=
    Rehearsal.Session.submits_cases r
  · exact absurd valid (h submission config submits)
  · rw [replaceAction_of_invalid submits invalid]
    rfl
  · obtain ⟨message, haction⟩ := replaceAction_of_not_submits unread wording
    rw [haction]
    rfl

theorem task?_of_not_accepts (h : ¬ p.Accepts r) (wording : Json.Wording) :
    (plan p wording r).action.task? = none ∨
      ∃ message, (plan p wording r).action.task? = some (.trial (.begun message)) := by
  cases hhandler : p.handler? r with
  | none =>
    obtain ⟨response, haction⟩ := plan_of_no_handler hhandler wording
    rw [haction]
    exact .inl rfl
  | some e =>
    rw [plan_of_handler hhandler wording]
    cases e with
    | health | state => exact .inl rfl
    | test => exact task?_testAction wording r
    | config =>
      rw [Endpoint.action]
      split
      · next hput =>
        refine .inl (task?_replaceAction (fun submission config submits valid => ?_) wording)
        exact h ⟨⟨hhandler, hput⟩, submission, config, submits, valid⟩
      · exact .inl rfl

end Control

namespace Rehearsal.Session

open Manager

/-- A session after something that leaves the shared state as it is, unless the peer replaces the
settings meanwhile, and that makes one call at most. -/
structure Undisturbed (s s' : Session) : Prop where
  shared : (∀ entry ∈ s.peer.script, entry.meanwhile = none) → s'.shared = s.shared
  called : s'.peer.seen = s.peer.seen ∨ ∃ call, s'.peer.seen = s.peer.seen ++ [call]

theorem Undisturbed.refl (s : Session) : Undisturbed s s :=
  ⟨fun _ => rfl, .inl rfl⟩

theorem undisturbed_take (s : Session) (call : Http.Call) :
    Undisturbed s { s with
      peer := (s.peer.take call).1
      shared := ((s.peer.take call).2.2.map s.shared.replaceConfig).getD s.shared } where
  shared quiet := by
    have hnone : (s.peer.take call).2.2 = none := by
      unfold Peer.take
      split
      · cases hscript : s.peer.script with
        | nil => rfl
        | cons entry rest => exact quiet entry (hscript ▸ List.mem_cons_self)
      · rfl
    rw [hnone]
    rfl
  called := by
    rw [Peer.seen_take]
    cases hreceives : s.peer.receives call with
    | true => exact .inr ⟨call, by rw [List.filter_cons_of_pos hreceives, List.filter_nil]⟩
    | false =>
      refine .inl ?_
      rw [List.filter_cons_of_neg (Bool.eq_false_iff.mp hreceives), List.filter_nil,
        List.append_nil]

theorem of_give {τ : Type} {want : τ → Want}
    {step : String → Shared → τ → Event → Option (Shared × τ)} {s s' : Session} {t t' : τ}
    (h : s.give want step t = some (s', t')) :
    ∃ s₁ e shared, s.supply (want t) = some (s₁, e) ∧
      step s₁.base s₁.shared t e = some (shared, t') ∧ s' = { s₁ with shared := shared } := by
  unfold give at h
  split at h
  · cases h
  · next s₁ e hsupply =>
    split at h
    · cases h
    · next shared t'' hstep =>
      cases h
      exact ⟨s₁, e, shared, hsupply, hstep, rfl⟩

theorem runFor_of_nothing {t : Task} (h : t.want = .nothing) (steps : Nat) (s : Session) :
    runFor steps s t = (s, t) := by
  cases steps with
  | zero => rfl
  | succ steps =>
    unfold runFor give
    rw [h]
    rfl

theorem undisturbed_runFor (steps : Nat) (s : Session) {t : Task} (message : t.isMessage = true) :
    Undisturbed s (runFor steps s t).1 := by
  induction steps generalizing s t with
  | zero => exact .refl s
  | succ steps ih =>
    unfold runFor
    split
    · exact .refl s
    · next s' t' hgive =>
      obtain ⟨s₁, e, shared, hsupply, hstep, rfl⟩ := of_give hgive
      have moved := Task.moved_of_step hstep
      obtain rfl := moved.shared_of_isMessage message
      cases hw : t.want with
      | nothing =>
        rw [hw] at hsupply
        cases hsupply
      | entry | snapshot =>
        rw [hw] at hsupply
        cases hsupply
        obtain ⟨hshared, hcalled⟩ := ih _ (moved.isMessage_eq.trans message)
        exact ⟨hshared, hcalled⟩
      | answer call =>
        rw [hw] at hsupply
        cases hsupply
        have hleft := Task.left_step hstep
        rw [Task.left_of_answer message hw] at hleft
        have hend := Task.want_of_left (moved.isMessage_eq.trans message) (Nat.lt_one_iff.mp hleft)
        rw [runFor_of_nothing hend]
        exact undisturbed_take s call

theorem undisturbed_run (s : Session) {t : Task} (message : t.isMessage = true) :
    Undisturbed s (s.run t).1 :=
  undisturbed_runFor t.left s message

theorem sendTest_eq (s : Session) (message : String) :
    (s.sendTest message).1 = (s.run (.trial (.begun message))).1 := by
  unfold sendTest
  split <;> next hrun => rw [hrun]

theorem perform_task (s : Session) (wording : Json.Wording) (a : Action) :
    (s.perform wording a).1 = (a.task?.map fun t => (s.run t).1).getD s := by
  cases a with
  | respond | health | config | states | replace => rfl
  | test message => exact sendTest_eq s message

/-- A request that is not for new settings, or not accepted, is answered without disturbing the
session; if it begins no test, the session is left as it is. -/
theorem undisturbed_serve {p : Policy} {r : Request} (h : ¬ p.Accepts r) (wording : Json.Wording)
    (s : Session) : Undisturbed s (s.serve p wording r).1 ∧
      ((plan p wording r).action.task? = none ∧ (s.serve p wording r).1 = s ∨
        ∃ message, (plan p wording r).action.task? = some (.trial (.begun message)) ∧
          (s.serve p wording r).1 = (s.run (.trial (.begun message))).1) := by
  have hserve : (s.serve p wording r).1 =
      ((plan p wording r).action.task?.map fun t => (s.run t).1).getD s :=
    perform_task s wording (plan p wording r).action
  rw [hserve]
  obtain hnone | ⟨message, htask⟩ := task?_of_not_accepts h wording
  · rw [hnone]
    exact ⟨.refl s, .inl ⟨rfl, rfl⟩⟩
  · rw [htask]
    exact ⟨undisturbed_run s rfl, .inr ⟨message, rfl, rfl⟩⟩

theorem undisturbed_serveConnection {p : Policy} {r : Request}
    (h : ∀ r', r.received = .ok r' → ¬ p.Accepts r') (wording : Json.Wording) (s : Session) :
    Undisturbed s (s.serveConnection p wording r).1 := by
  unfold serveConnection
  split
  · exact .refl s
  · next r' hreceived => exact (undisturbed_serve (h r' hreceived) wording s).1

end Rehearsal.Session

namespace Manager

open Rehearsal

/-- The settings and the alert states are changed by updates and by checks only, and by these only
as `Deed.Writes` says. Reports, tests and all requests to the control interface but accepted ones
for new settings change none of it, and make at most one request each. -/
theorem System.Run.shared_by_writers {base : String} {config : TelegramConfig}
    {ok : System → Prop} {s : System} {log : List Deed} (run : Run base config ok s log) :
    (∀ s', Move base s s' → s'.shared = s.shared ∨
      ∃ d : Deed, d.Does base s ∧ s' = d.result s ∧ d.Writes log) ∧
    (∀ (j : Nat) (d : Deed), log[j]? = some d → d.before.isMessage = true → d.left = d.found ∧
      (d.Asks → ∀ (k : Nat) (a : Deed), log[k]? = some a → a.task = d.task → a.Asks → k = j)) ∧
    (∀ (x : Session) (message : String), x.Undisturbed (x.sendTest message).1) ∧
    (∀ (x : Session) (update : FilterUpdate), x.Undisturbed (x.notify update)) ∧
    ∀ (x : Session) (p : Policy) (wording : Json.Wording) (r : Request),
      (¬ p.Accepts r → x.Undisturbed (x.serve p wording r).1 ∧
        ((plan p wording r).action.task? = none ∧ (x.serve p wording r).1 = x ∨
          ∃ message, (plan p wording r).action.task? = some (.trial (.begun message)) ∧
            (x.serve p wording r).1 = (x.run (.trial (.begun message))).1)) ∧
      ((∀ r', r.received = .ok r' → ¬ p.Accepts r') →
        x.Undisturbed (x.serveConnection p wording r).1) := by
  refine ⟨fun s' move => ?_, fun j d hd message => run.asks_once hd message, fun x message => ?_,
    fun x update => x.undisturbed_run rfl, fun x p wording r =>
      ⟨fun h => Session.undisturbed_serve h wording x,
        fun h => Session.undisturbed_serveConnection h wording x⟩⟩
  · cases move with
    | begins => exact .inl rfl
    | steps i t t' e shared here moved =>
      have does : Deed.Does base ⟨i, e, s.shared, t, shared, t'⟩ s := ⟨rfl, here, moved⟩
      exact .inr ⟨_, does, rfl, run.writes does⟩
  · rw [Session.sendTest_eq]
    exact x.undisturbed_run rfl

namespace Sample

/-- The alert of the CPU becomes active as the check completes it. -/
theorem completed_before_active : ∃ (s s' : System) (log : List Deed) (d : Deed),
    System.Run base settings System.Serial s log ∧ System.Move base s s' ∧ d.Does base s ∧
      s' = d.result s ∧ (s.shared.alerts.get .cpu).active = false ∧
      (s'.shared.alerts.get .cpu).active = true ∧ d.Completes log .cpu time := by
  obtain ⟨call, sent⟩ := run_sent 1
  have answered := sent.checks 0 rfl
    (.accepts (work 1) .cpu [.memory, .disk] time call accepted accepted_ok) (Nat.le_refl 1)
  have move : System.Move base
      ⟨.initial settings, [.check (.recording (work 1) .cpu [.memory, .disk] time)]⟩
      ⟨recorded, [.check (.examining (work 1) .memory [.disk])]⟩ :=
    .steps _ 0 _ _ (.enter time time) _ rfl rfl
  obtain ⟨moves, -⟩ := answered.shared_by_writers
  obtain hsame | ⟨d, does, hresult, writes⟩ := moves _ move
  · have hactive : (recorded.alerts.get .cpu).active = true := rfl
    rw [show recorded = Shared.initial settings from hsame] at hactive
    cases hactive
  · have hfound : d.found = .initial settings := does.found
    have hleft : d.left = recorded := (congrArg System.shared hresult).symm
    obtain hsame | ⟨-, time', completes, hdate⟩ := writes.dated .cpu
    · rw [hleft, hfound] at hsame
      cases hsame
    · rw [hleft] at hdate
      cases hdate
      exact ⟨_, _, _, d, answered, move, does, hresult, rfl, rfl, completes⟩

end Sample

end Manager

end HostAlert
