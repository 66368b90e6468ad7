import HostAlert.Proofs.Control.Writers
import HostAlert.Proofs.Manager.Trial

/-!
# Requests for a test message

A body that is neither white space nor a test message is refused, and nothing else happens. Any
other request for a test begins one, and the response says what came of it: success if the one
delivery succeeded, else its failure (`Session.tries_answered`). This depends on the credentials,
not on whether notifications are on or which alerts are active.
-/

namespace HostAlert

open Control

namespace Control

/-- The request is one for a test message and gets to its handler. -/
structure Policy.Tries (p : Policy) (r : Request) : Prop where
  admits : p.Admits r
  method : r.method = "POST"
  path : r.path = "/control/notifications/telegram/test"
  size : r.body.length ≤ maxBody

/-- The message that the body of a request for a test gives: none, if the body is white space. -/
inductive Request.Tests (r : Request) : String → Prop
  | absent (spaces : ∀ b ∈ r.body, isAsciiSpace b = true) : Tests r ""
  | given (t : TestMessage) (marked : ¬ ∀ b ∈ r.body, isAsciiSpace b = true)
      (read : Json.document TestMessage.read r.body = .ok t) : Tests r t.message

structure Response.Refuses (response : Response) (status : Nat) (message : String) : Prop where
  status : response.status = status
  body : response.body = .json (.object [("error", .text message)])

/-- The response says what came of a test. -/
structure Response.Reports (response : Response) (wording : Json.Wording) (outcome : Outcome) :
    Prop where
  succeeds : response.status = 200 ↔ outcome = .ok ()
  fails : ∀ e, outcome = .error e →
    response.Refuses 502 ("telegram test failed: " ++ e.message wording)

variable {p : Policy} {r : Request} {message : String}

namespace Policy.Tries

theorem handler (h : p.Tries r) : p.handler? r = some .test := by
  have hpreflight : p.isPreflight r = false := by
    rw [isPreflight, h.method, Bool.and_eq_false_iff]
    exact .inr rfl
  refine handler?_eq_some_iff.mpr ⟨h.admits, hpreflight, ?_, ?_⟩
  · rw [h.path]
    decide +kernel
  · rw [h.method]
    rfl

theorem keeps_body (h : p.Tries r) : dropsBody r = false :=
  dropsBody_of_method (by rw [h.method]; decide)

end Policy.Tries

theorem testAction_of_tests (size : r.body.length ≤ maxBody) (h : r.Tests message)
    (wording : Json.Wording) : testAction wording r = .test message := by
  unfold testAction
  rw [if_neg (Nat.not_lt.mpr size)]
  cases h with
  | absent spaces => rw [if_pos (List.all_eq_true.mpr spaces)]
  | given t marked read =>
    rw [if_neg (mt List.all_eq_true.mp marked), read]

theorem testAction_of_not_tests (size : r.body.length ≤ maxBody) (h : ∀ m, ¬ r.Tests m)
    (wording : Json.Wording) : ∃ fault, Json.document TestMessage.read r.body = .error fault ∧
      testAction wording r = .respond (.ofError 400 ("json decode: " ++ wording fault)) := by
  have marked : ¬ ∀ b ∈ r.body, isAsciiSpace b = true := fun spaces => h _ (.absent spaces)
  cases hread : Json.document TestMessage.read r.body with
  | ok t => exact absurd (.given t marked hread) (h t.message)
  | error fault =>
    refine ⟨fault, rfl, ?_⟩
    unfold testAction
    rw [if_neg (Nat.not_lt.mpr size), if_neg (mt List.all_eq_true.mp marked), hread]

theorem reports_of_testResponse {response : Response} {wording : Json.Wording} {outcome : Outcome}
    (status : response.status = (testResponse wording outcome).status)
    (body : response.body = (testResponse wording outcome).body) :
    response.Reports wording outcome := by
  cases outcome with
  | ok => exact ⟨iff_of_true status rfl, nofun⟩
  | error e =>
    have hstatus : response.status = 502 := status
    refine ⟨iff_of_false (by rw [hstatus]; decide) nofun, fun e' he => ?_⟩
    cases he
    exact ⟨hstatus, body⟩

theorem reports_of_finish (tries : p.Tries r) (wording : Json.Wording) (outcome : Outcome) :
    ((plan p wording r).finish (testResponse wording outcome)).Reports wording outcome := by
  refine reports_of_testResponse (Plan.status_finish ..) ?_
  rw [Plan.body_finish, dropsBody_plan, tries.keeps_body, if_neg Bool.false_ne_true]

end Control

namespace Rehearsal

open Manager

/-- The peer gives these answers to these calls, one after another, and is left as the last. -/
inductive Peer.Answers : Peer → List (Http.Call × Http.Answer) → Peer → Prop
  | nothing (p : Peer) : Answers p [] p
  | call {p p' : Peer} {exchanges : List (Http.Call × Http.Answer)} (call : Http.Call)
      (rest : Answers (p.take call).1 exchanges p') :
      Answers p ((call, (p.take call).2.1) :: exchanges) p'

namespace Session

/-- A test is brought to its end in a run, with the answers of the peer. -/
theorem run_trial (steps : Nat) (s : Session) {t : Trial} (enough : t.left ≤ steps) :
    ∃ exchanges outcome, Trial.Run s.base s.shared t exchanges outcome ∧
      (runFor steps s (.trial t)).2 = .trial (.finished outcome) ∧
      s.peer.Answers exchanges (runFor steps s (.trial t)).1.peer := by
  induction steps generalizing s t with
  | zero =>
    cases t with
    | finished outcome => exact ⟨[], outcome, .ended outcome, rfl, .nothing _⟩
    | begun | awaiting => cases enough
  | succ steps ih =>
    cases t with
    | finished outcome => exact ⟨[], outcome, .ended outcome, rfl, .nothing _⟩
    | begun message =>
      have hleft : (Trial.deliver s.base s.shared.config message).left ≤ steps :=
        Nat.le_trans (Trial.left_deliver ..) (Nat.le_of_succ_le_succ enough)
      obtain ⟨exchanges, outcome, run, hend, answers⟩ :=
        ih { s with now := (s.now.after tick).after tick } hleft
      exact ⟨exchanges, outcome, .entered s.now (s.now.after tick) rfl rfl run, hend, answers⟩
    | awaiting call =>
      have htask : (Task.trial (.finished (Delivery.outcome (s.peer.take call).2.1))).want =
        .nothing := rfl
      refine ⟨[(call, (s.peer.take call).2.1)], Delivery.outcome (s.peer.take call).2.1,
        .answered s.shared call _ rfl rfl (.ended _), ?_, ?_⟩
      · exact congrArg Prod.snd (runFor_of_nothing htask steps _)
      · have hpeer := congrArg (fun result => result.1.peer) (runFor_of_nothing htask steps
          { s with
            peer := (s.peer.take call).1
            shared := ((s.peer.take call).2.2.map s.shared.replaceConfig).getD s.shared })
        exact (show Session.peer _ = _ from hpeer) ▸ .call call (.nothing _)

variable {p : Policy} {r : Request} {message : String}

theorem run_sendTest (s : Session) (message : String) :
    ∃ exchanges, Trial.Run s.base s.shared (.begun message) exchanges (s.sendTest message).2 ∧
      s.peer.Answers exchanges (s.sendTest message).1.peer := by
  obtain ⟨exchanges, outcome, run, hend, answers⟩ :=
    s.run_trial 2 (t := .begun message) (Nat.le_refl 2)
  refine ⟨exchanges, ?_, (sendTest_eq s message) ▸ answers⟩
  have hend' : (s.run (.trial (.begun message))).2 = .trial (.finished outcome) := hend
  have houtcome : (s.sendTest message).2 = outcome := by
    unfold sendTest
    split
    · next hrun =>
      rw [hrun] at hend'
      cases hend'
      rfl
    · next hother hrun =>
      rw [hrun] at hend'
      exact absurd hend' (hother outcome)
  exact houtcome ▸ run

/-- How requests for test messages are answered. A body that gives no message is refused, and the
session stays as it is. Any other one begins a test, which ends as `Trial.Sends` says whatever its
surroundings are, those of the session among them, and the response reports the end. -/
theorem tries_answered (tries : p.Tries r) (wording : Json.Wording) (s : Session) :
    ((∀ message, ¬ r.Tests message) →
      ∃ fault, Json.document TestMessage.read r.body = .error fault ∧
        (s.serve p wording r).1 = s ∧
        (s.serve p wording r).2.Refuses 400 ("json decode: " ++ wording fault)) ∧
    ∀ message, r.Tests message →
      (∃ exchanges outcome, Trial.Sends s.base s.shared.config message exchanges outcome ∧
        s.peer.Answers exchanges (s.serve p wording r).1.peer ∧
        (s.serve p wording r).2.Reports wording outcome) ∧
      (plan p wording r).action = .test message ∧
      (∀ base shared exchanges outcome, Trial.Run base shared (.begun message) exchanges outcome ↔
        Trial.Sends base shared.config message exchanges outcome) ∧
      (∀ outcome,
        ((plan p wording r).finish (testResponse wording outcome)).Reports wording outcome) ∧
      ∀ base config, Delivery.prepare base config (Trial.messageOrDefault message) ≠ .skip := by
  obtain ⟨hsession, hstatus, hbody⟩ := serve_of_handler tries.handler wording s
  rw [tries.keeps_body, if_neg Bool.false_ne_true] at hbody
  constructor
  · intro unread
    obtain ⟨fault, hread, haction⟩ := testAction_of_not_tests tries.size unread wording
    rw [Endpoint.action, haction] at hsession hstatus hbody
    exact ⟨fault, hread, hsession, hstatus, hbody⟩
  · intro message tests
    have haction := testAction_of_tests tries.size tests wording
    refine ⟨?_, (plan_of_handler tries.handler wording).trans haction,
      fun base shared exchanges outcome => Trial.run_begun_iff,
      reports_of_finish tries wording,
      fun base config => Trial.prepare_ne_skip base config message⟩
    rw [Endpoint.action, haction] at hsession hstatus hbody
    obtain ⟨exchanges, run, answers⟩ := s.run_sendTest message
    refine ⟨exchanges, _, Trial.run_begun_iff.mp run, ?_, reports_of_testResponse hstatus hbody⟩
    rw [hsession]
    exact answers

end Session

namespace Sample

/-- A session with credentials in which notifications are off. -/
def keyed : Session :=
  .start { TelegramConfig.initial with botToken := "1:a", chatId := "7" } Peer.base .empty
    ⟨true, [], []⟩ ⟨0⟩

def testing : Request :=
  ⟨"POST", "/control/notifications/telegram/test", [(Guard.secretHeader, utf8 "s")], utf8 " \n"⟩

/-- The fixed text is posted once, also while notifications are off. -/
theorem fixed_text_posted : (Policy.mk (some "s") false).Tries testing ∧
    ∃ call, call.form = some [("chat_id", "7"), ("text", "Hostwatch test notification")] ∧
      (keyed.serve ⟨some "s", false⟩ unworded testing).1.peer = (keyed.peer.take call).1 ∧
      (keyed.serve ⟨some "s", false⟩ unworded testing).2.status = 200 := by
  have tries : (Policy.mk (some "s") false).Tries testing :=
    ⟨Policy.refusal?_eq_none_iff.mp (by decide +kernel), rfl, rfl, by decide +kernel⟩
  have tests : testing.Tests "" := .absent (List.all_eq_true.mp (by decide +kernel))
  have hurl : (Http.Url.ofText? (Delivery.endpoint Peer.base "1:a")).any Http.Url.isSendable =
      true := by
    decide +kernel
  obtain ⟨url, hread, hsendable⟩ := (Option.any_eq_true _ _).mp hurl
  have hstatus : (keyed.serve ⟨some "s", false⟩ unworded testing).2.status = 200 := by
    decide +kernel
  obtain ⟨-, begun⟩ := Session.tries_answered tries unworded keyed
  obtain ⟨⟨exchanges, outcome, sends, answers, -⟩, -⟩ := begun "" tests
  rw [hstatus]
  generalize (keyed.serve ⟨some "s", false⟩ unworded testing).1.peer = left at answers ⊢
  refine ⟨tries, ?_⟩
  cases sends with
  | incomplete lacks => exact absurd lacks (by decide +kernel)
  | unaddressed has none => exact absurd ⟨hread, hsendable⟩ (none url)
  | posted has addressed answer =>
    cases answers with
    | call _ rest =>
      cases rest
      exact ⟨_, rfl, rfl, rfl⟩

end Sample

end Rehearsal

end HostAlert
