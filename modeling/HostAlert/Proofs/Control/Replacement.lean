import HostAlert.Proofs.Config.Validation
import HostAlert.Proofs.Control.Handler

/-!
# Replacing the settings

A request for new settings is answered with success exactly when its body is read and what it
submits is accepted; then this is stored, and otherwise nothing changes at all (`Answered`). So
after any number of such requests, of which one succeeded, the settings are valid
(`Session.served_replacements`).
-/

namespace HostAlert

open Control

namespace Control

/-- The request gets to the handler for new settings. -/
structure Policy.Puts (p : Policy) (r : Request) : Prop where
  handler : p.handler? r = some .config
  method : r.method = "PUT"

/-- The body of the request is read as the submission. -/
structure Request.Submits (r : Request) (submission : Submission) : Prop where
  json : r.isJson = true
  size : r.body.length ≤ maxBody
  read : ∃ rest, Submission.read r.body = .ok (submission, rest)

variable {p : Policy} {r : Request} {submission : Submission}

theorem Policy.Puts.keeps_body (h : p.Puts r) : dropsBody r = false :=
  dropsBody_of_method (by rw [h.method]; decide)

theorem replaceAction_of_valid {config : TelegramConfig} (h : r.Submits submission)
    (valid : submission.validate = .ok config) (wording : Json.Wording) :
    replaceAction wording r = .replace config := by
  obtain ⟨rest, hread⟩ := h.read
  simp only [replaceAction, h.json, Bool.not_true, Bool.false_eq_true, if_false,
    Nat.not_lt.mpr h.size, hread, valid]

theorem replaceAction_of_invalid {refusal : Submission.Refusal} (h : r.Submits submission)
    (invalid : submission.validate = .error refusal) (wording : Json.Wording) :
    replaceAction wording r = .respond (.ofError 422 refusal.message) := by
  obtain ⟨rest, hread⟩ := h.read
  simp only [replaceAction, h.json, Bool.not_true, Bool.false_eq_true, if_false,
    Nat.not_lt.mpr h.size, hread, invalid]

theorem undecodable_eq (wording : Json.Wording) (fault : Json.Fault) :
    ∃ message, undecodable wording fault = "json decode: " ++ message := by
  unfold undecodable
  exact ⟨_, String.append_assoc⟩

theorem replaceAction_of_not_submits (h : ∀ submission, ¬ r.Submits submission)
    (wording : Json.Wording) :
    ∃ message, replaceAction wording r = .respond (.ofError 400 ("json decode: " ++ message)) := by
  unfold replaceAction
  by_cases hjson : r.isJson = true
  · by_cases hsize : maxBody < r.body.length
    · exact ⟨tooLarge, by simp only [hjson, Bool.not_true, Bool.false_eq_true, if_false, hsize,
        if_true]⟩
    · simp only [hjson, Bool.not_true, Bool.false_eq_true, if_false, hsize]
      cases hread : Submission.read r.body with
      | error fault =>
        obtain ⟨message, hmessage⟩ := undecodable_eq wording fault
        exact ⟨message, by simp only [hmessage]⟩
      | ok read => exact absurd ⟨hjson, Nat.not_lt.mp hsize, read.2, hread⟩ (h read.1)
  · refine ⟨"Expected request with `Content-Type: application/json`", ?_⟩
    simp only [Bool.not_eq_true] at hjson
    simp only [hjson, Bool.not_false, if_true]
    rfl

end Control

namespace Rehearsal.Session

variable {p : Policy} {r : Request} {submission : Submission} {config : TelegramConfig}
variable {wording : Json.Wording} {s : Session}

/-- How a session answers a request for new settings. -/
structure Answered (s : Session) (r : Request) (answer : Session × Response) : Prop where
  succeeds : answer.2.status = 200 ↔
    ∃ submission config, r.Submits submission ∧ submission.validate = .ok config
  /-- What is accepted is stored. Alerts stay active unless it switches notifications off. -/
  stores : ∀ submission config, r.Submits submission → submission.validate = .ok config →
    answer.1.shared.config = config ∧ ∀ m, answer.1.shared.alerts.get m =
      ⟨config.enabled && (s.shared.alerts.get m).active, (s.shared.alerts.get m).lastAlert⟩
  invalid : ∀ submission refusal, r.Submits submission → submission.validate = .error refusal →
    answer.2.status = 422 ∧ answer.2.body = .json (.object [("error", .text refusal.message)])
  unread : (∀ submission, ¬ r.Submits submission) → answer.2.status = 400
  unchanged : answer.2.status ≠ 200 → answer.1 = s

theorem updateConfig_shared (s : Session) (config : TelegramConfig) :
    (s.updateConfig config).shared = s.shared.replaceConfig config := rfl

theorem get_replaceConfig (shared : Manager.Shared) (config : TelegramConfig) (m : Metric) :
    (shared.replaceConfig config).alerts.get m =
      ⟨config.enabled && (shared.alerts.get m).active, (shared.alerts.get m).lastAlert⟩ := by
  unfold Manager.Shared.replaceConfig
  cases config.enabled with
  | true => simp
  | false => simp

theorem serve_of_puts (puts : p.Puts r) (wording : Json.Wording) (s : Session) :
    (s.serve p wording r).1 = (s.perform wording (replaceAction wording r)).1 ∧
      (s.serve p wording r).2.status = (s.perform wording (replaceAction wording r)).2.status ∧
      (s.serve p wording r).2.body = (s.perform wording (replaceAction wording r)).2.body := by
  have hserve := serve_of_handler puts.handler wording s
  rwa [puts.keeps_body, if_neg Bool.false_ne_true, Endpoint.action, if_pos puts.method] at hserve

theorem serve_accepted (puts : p.Puts r) (submits : r.Submits submission)
    (valid : submission.validate = .ok config) (wording : Json.Wording) (s : Session) :
    (s.serve p wording r).2.status = 200 ∧
      (s.serve p wording r).1.shared = s.shared.replaceConfig config := by
  obtain ⟨hsession, hstatus, -⟩ := serve_of_puts puts wording s
  rw [replaceAction_of_valid submits valid] at hsession hstatus
  exact ⟨hstatus, (congrArg shared hsession).trans (updateConfig_shared s config)⟩

theorem serve_invalid {refusal : Submission.Refusal} (puts : p.Puts r)
    (submits : r.Submits submission) (invalid : submission.validate = .error refusal)
    (wording : Json.Wording) (s : Session) : (s.serve p wording r).2.status = 422 ∧
      (s.serve p wording r).2.body = .json (.object [("error", .text refusal.message)]) ∧
      (s.serve p wording r).1 = s := by
  obtain ⟨hsession, hstatus, hbody⟩ := serve_of_puts puts wording s
  rw [replaceAction_of_invalid submits invalid] at hsession hstatus hbody
  exact ⟨hstatus, hbody, hsession⟩

theorem serve_unread (puts : p.Puts r) (unread : ∀ submission, ¬ r.Submits submission)
    (wording : Json.Wording) (s : Session) :
    (s.serve p wording r).2.status = 400 ∧ (s.serve p wording r).1 = s := by
  obtain ⟨hsession, hstatus, -⟩ := serve_of_puts puts wording s
  obtain ⟨message, haction⟩ := replaceAction_of_not_submits unread wording
  rw [haction] at hsession hstatus
  exact ⟨hstatus, hsession⟩

/-- A body is accepted, read but not accepted, or not read. -/
theorem submits_cases (r : Request) :
    (∃ submission config, r.Submits submission ∧ submission.validate = .ok config) ∨
      (∃ submission refusal, r.Submits submission ∧ submission.validate = .error refusal) ∨
      ∀ submission, ¬ r.Submits submission := by
  by_cases h : ∃ submission, r.Submits submission
  · obtain ⟨submission, submits⟩ := h
    cases hvalidate : submission.validate with
    | ok config => exact .inl ⟨submission, config, submits, hvalidate⟩
    | error refusal => exact .inr (.inl ⟨submission, refusal, submits, hvalidate⟩)
  · exact .inr (.inr (not_exists.mp h))

theorem answered_serve (puts : p.Puts r) (wording : Json.Wording) (s : Session) :
    Answered s r (s.serve p wording r) where
  succeeds := by
    refine ⟨fun hstatus => ?_, fun ⟨_, _, submits, valid⟩ =>
      (serve_accepted puts submits valid wording s).1⟩
    obtain accepted | ⟨_, _, submits, invalid⟩ | unread := submits_cases r
    · exact accepted
    · rw [(serve_invalid puts submits invalid wording s).1] at hstatus
      cases hstatus
    · rw [(serve_unread puts unread wording s).1] at hstatus
      cases hstatus
  stores submission config submits valid := by
    rw [(serve_accepted puts submits valid wording s).2]
    exact ⟨(Submission.valid_of_validate valid).normalize, get_replaceConfig s.shared config⟩
  invalid submission refusal submits invalid := by
    obtain ⟨hstatus, hbody, -⟩ := serve_invalid puts submits invalid wording s
    exact ⟨hstatus, hbody⟩
  unread unread := (serve_unread puts unread wording s).1
  unchanged hstatus := by
    obtain ⟨_, _, submits, valid⟩ | ⟨_, _, submits, invalid⟩ | unread := submits_cases r
    · exact absurd (serve_accepted puts submits valid wording s).1 hstatus
    · exact (serve_invalid puts submits invalid wording s).2.2
    · exact (serve_unread puts unread wording s).2

/-! ### One request after the other -/

/-- The session after requests that are answered one after the other. -/
def served (s : Session) (p : Policy) (wording : Json.Wording) (rs : List Request) : Session :=
  rs.foldl (fun s r => (s.serve p wording r).1) s

theorem served_nil (s : Session) (p : Policy) (wording : Json.Wording) :
    s.served p wording [] = s := rfl

theorem served_append (s : Session) (p : Policy) (wording : Json.Wording) (rs rs' : List Request) :
    s.served p wording (rs ++ rs') = (s.served p wording rs).served p wording rs' :=
  List.foldl_append

namespace Answered

variable {answer : Session × Response}

theorem lastAlert (h : Answered s r answer) (m : Metric) :
    (answer.1.shared.alerts.get m).lastAlert = (s.shared.alerts.get m).lastAlert := by
  by_cases hstatus : answer.2.status = 200
  · obtain ⟨submission, config, submits, valid⟩ := h.succeeds.mp hstatus
    rw [(h.stores submission config submits valid).2 m]
  · rw [h.unchanged hstatus]

theorem valid_of_status (h : Answered s r answer) (hstatus : answer.2.status = 200) :
    answer.1.shared.config.Valid := by
  obtain ⟨submission, config, submits, valid⟩ := h.succeeds.mp hstatus
  rw [(h.stores submission config submits valid).1]
  exact Submission.valid_of_validate valid

theorem keeps_valid (h : Answered s r answer) (valid : s.shared.config.Valid) :
    answer.1.shared.config.Valid := by
  by_cases hstatus : answer.2.status = 200
  · exact h.valid_of_status hstatus
  · rw [h.unchanged hstatus]
    exact valid

end Answered

theorem kept_served {rs : List Request} (puts : ∀ r ∈ rs, p.Puts r) :
    (∀ m, ((s.served p wording rs).shared.alerts.get m).lastAlert =
      (s.shared.alerts.get m).lastAlert) ∧
    (s.shared.config.Valid → (s.served p wording rs).shared.config.Valid) := by
  induction rs generalizing s with
  | nil => exact ⟨fun _ => rfl, id⟩
  | cons r rs ih =>
    have answered := answered_serve (puts r List.mem_cons_self) wording s
    have hrest : ∀ r' ∈ rs, p.Puts r' := fun r' hr' => puts r' (List.mem_cons_of_mem _ hr')
    obtain ⟨hlast, hvalid⟩ := @ih (s.serve p wording r).1 hrest
    exact ⟨fun m => (hlast m).trans (answered.lastAlert m),
      fun valid => hvalid (answered.keeps_valid valid)⟩

/-- Each of any number of requests for new settings succeeds or changes nothing, and none changes
the time of a last alert. After one that succeeded the settings stay valid. -/
theorem served_replacements (p : Policy) (wording : Json.Wording) (s : Session) (rs : List Request)
    (puts : ∀ r ∈ rs, p.Puts r) :
    (∀ before r after, rs = before ++ r :: after →
      Answered (s.served p wording before) r ((s.served p wording before).serve p wording r) ∧
      (((s.served p wording before).serve p wording r).2.status = 200 →
        (s.served p wording rs).shared.config.Valid)) ∧
    ∀ m, ((s.served p wording rs).shared.alerts.get m).lastAlert =
      (s.shared.alerts.get m).lastAlert := by
  refine ⟨?_, (kept_served puts).1⟩
  rintro before r after rfl
  have hputs : ∀ r' ∈ r :: after, p.Puts r' := fun r' hr' => puts r' (List.mem_append_right _ hr')
  obtain ⟨hfirst, hafter⟩ := List.forall_mem_cons.mp hputs
  have answered := answered_serve hfirst wording (s.served p wording before)
  refine ⟨answered, fun hstatus => ?_⟩
  rw [served_append]
  exact (kept_served hafter).2 (answered.valid_of_status hstatus)

end Rehearsal.Session

namespace Rehearsal.Sample

def putting (body : String) : Request :=
  ⟨"PUT", "/control/notifications/telegram", [(Guard.secretHeader, utf8 "s"),
    (Response.contentType, utf8 "application/json")], utf8 body⟩

def plain : Request :=
  putting "\x7b\x22check_interval\x22:60000,\x22cooldown\x22:60000\x7d"

theorem puts_plain : (Policy.mk (some "s") false).Puts plain :=
  ⟨by decide +kernel, rfl⟩

def hasty : Request :=
  putting "\x7b\x22enabled\x22:true\x7d"

/-- A request that succeeds leaves valid settings behind, and they survive one that does not. -/
theorem plain_before_hasty :
    (quiet.serve ⟨some "s", false⟩ unworded plain).2.status = 200 ∧
      (quiet.served ⟨some "s", false⟩ unworded [plain, hasty]).shared.config.Valid := by
  have hputs : ∀ r ∈ [plain, hasty], (Policy.mk (some "s") false).Puts r :=
    List.forall_mem_cons.mpr ⟨puts_plain, List.forall_mem_singleton.mpr ⟨by decide +kernel, rfl⟩⟩
  have hstatus : (quiet.serve ⟨some "s", false⟩ unworded plain).2.status = 200 := by
    decide +kernel
  obtain ⟨answered, -⟩ := Session.served_replacements _ unworded quiet _ hputs
  have hvalid := (answered [] plain [hasty] rfl).2
  rw [Session.served_nil] at hvalid
  exact ⟨hstatus, hvalid hstatus⟩

end Rehearsal.Sample

end HostAlert
