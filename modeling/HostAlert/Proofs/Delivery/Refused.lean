import HostAlert.Proofs.Delivery.Front
import HostAlert.Proofs.Json.Decoded
import HostAlert.Proofs.Message.Layout
import HostAlert.Proofs.Text.Trim
import HostAlert.Proofs.Text.Utf8

/-!
# Refused messages

A reply may have the status of success and yet decline the message (`Delivery.Declines`). The reason
given then is the trimmed description or, without one, the trimmed text of the whole body. A body
that was decoded has a bracket in it, which no malformed byte hides, so its text is never blank and
there always is a reason (`Delivery.refusals_explained`).
-/

namespace HostAlert.Delivery

open Text (trim trimmed)
open Text.Utf8 (decodeLossy mem_decodeLossy_of_lt)
open Message (Framed framed_trimmed)

/-- The reply has the status of success, and what is read of its body says that the message was not
taken. -/
structure Declines (r : Http.Reply) (a : Acknowledgement) : Prop where
  status : r.status = 200
  body : Json.document Acknowledgement.read (r.body maxBody) = .ok a
  refused : a.ok = false

/-! ### Reasons -/

theorem nonBlank_of_trim_eq_nil {s : String} (h : trim s.toList = []) : nonBlank s = none :=
  if_pos ((Text.isEmpty_trimmed s).mpr h)

theorem nonBlank_of_trim_ne_nil {s : String} (h : trim s.toList ≠ []) :
    nonBlank s = some (trimmed s) :=
  if_neg (mt (Text.isEmpty_trimmed s).mp h)

theorem trimmed_decodeLossy (body : Bytes) :
    trimmed (String.ofList (decodeLossy body)) = bodyText body := by
  rw [trimmed, String.toList_ofList, bodyText]

theorem explanation?_of_description {d : String} (h : trim d.toList ≠ []) (body : Bytes) :
    explanation? (some d) body = some (trimmed d) := by
  rw [explanation?, Option.bind_some, nonBlank_of_trim_ne_nil h, Option.some_or]

theorem explanation?_of_body {description : Option String} {body : Bytes}
    (blank : ∀ d ∈ description, trim d.toList = []) (h : trim (decodeLossy body) ≠ []) :
    explanation? description body = some (bodyText body) := by
  have hnone : description.bind nonBlank = none :=
    Option.bind_eq_none_iff.mpr fun d hd => nonBlank_of_trim_eq_nil (blank d hd)
  rw [explanation?, hnone, Option.none_or, nonBlank_of_trim_ne_nil, trimmed_decodeLossy]
  rwa [String.toList_ofList]

/-- What was decoded is not blank as a text, even where it holds bytes that are malformed. -/
theorem trim_decodeLossy_ne_nil {body : Bytes} {a : Acknowledgement}
    (h : Json.document Acknowledgement.read body = .ok a) : trim (decodeLossy body) ≠ [] := by
  obtain ⟨rest, hread⟩ := Json.read_of_document h
  obtain hsquare | hcurly := Json.bracket_mem_of_record hread
  · exact Text.trim_ne_nil (mem_decodeLossy_of_lt (by decide) hsquare) (by decide)
  · exact Text.trim_ne_nil (mem_decodeLossy_of_lt (by decide) hcurly) (by decide)

/-- What a text has to be to explain a refusal with this description and this body. -/
structure Explains (text : String) (description : Option String) (body : Bytes) : Prop where
  framed : Framed text
  described : ∀ d ∈ description, trim d.toList ≠ [] → text = trimmed d
  undescribed : (∀ d ∈ description, trim d.toList = []) → text.toList = trim (decodeLossy body)

theorem exists_explanation {body : Bytes} {a : Acknowledgement}
    (h : Json.document Acknowledgement.read body = .ok a) :
    ∃ text, explanation? a.description body = some text ∧ Explains text a.description body := by
  have hbody := trim_decodeLossy_ne_nil h
  by_cases hblank : ∀ d ∈ a.description, trim d.toList = []
  · refine ⟨bodyText body, explanation?_of_body hblank hbody, ?_, ?_, fun _ => ?_⟩
    · rw [← trimmed_decodeLossy]
      exact framed_trimmed (by rwa [String.toList_ofList])
    · intro d hd hne
      exact absurd (hblank d hd) hne
    · rw [bodyText, String.toList_ofList]
  · obtain ⟨d, hd, hne⟩ : ∃ d ∈ a.description, trim d.toList ≠ [] := by simpa using hblank
    refine ⟨trimmed d, ?_, framed_trimmed hne, fun d' hd' _ => ?_, fun hall => ?_⟩
    · rw [hd]
      exact explanation?_of_description hne body
    · rw [Option.mem_unique hd hd']
    · exact absurd (hall d hd) hne

/-! ### Answers -/

theorem outcome_of_declines {r : Http.Reply} {a : Acknowledgement} (h : Declines r a) :
    outcome (.reply r) = .error (.refused (refusal a.description (r.body maxBody))) := by
  have hne : (r.body maxBody).isEmpty = false := by
    cases hbody : r.body maxBody with
    | nil =>
      have hread := h.body
      rw [hbody] at hread
      cases hread
    | cons => rfl
  rw [outcome]
  simp only [h.status, if_true, acknowledged, hne, h.body, h.refused, Bool.false_eq_true, if_false]

theorem declines_of_outcome {answer : Http.Answer} {text : String}
    (h : outcome answer = .error (.refused text)) : ∃ r a, answer = .reply r ∧ Declines r a ∧
      text = refusal a.description (r.body maxBody) := by
  cases answer with
  | failed => cases h
  | reply r =>
    rw [outcome] at h
    split at h
    · next hstatus =>
      unfold acknowledged at h
      split at h
      · cases h
      split at h
      · cases h
      · next a hread =>
        split at h
        · cases h
        · next hok =>
          cases h
          exact ⟨r, a, rfl, ⟨hstatus, hread, Bool.eq_false_iff.mpr hok⟩, rfl⟩
    · cases h

theorem send_of_plan {base : String} {config : TelegramConfig} {message : String}
    {call : Http.Call} (h : prepare base config message = .send call)
    (answer : Http.Call → Http.Answer) :
    send base config message answer = outcome (answer call) := by
  rw [send, h]

/-- Only the answer to a call can refuse a message. -/
theorem exists_call_of_refused {base : String} {config : TelegramConfig} {message : String}
    {answer : Http.Call → Http.Answer} {text : String}
    (h : send base config message answer = .error (.refused text)) :
    ∃ call, outcome (answer call) = .error (.refused text) := by
  cases hplan : prepare base config message with
  | skip =>
    rw [send, hplan] at h
    cases h
  | fail e =>
    rw [send, hplan, badUrl_of_fail hplan] at h
    cases h
  | send call => exact ⟨call, send_of_plan hplan answer ▸ h⟩

/-- A message that is declined is reported with a reason that is not blank at its ends: the trimmed
description, unless that is blank, and then the text of what was read of the body. The words for a
refusal without any text are out of reach, and no other answer is reported as a refusal. -/
theorem refusals_explained :
    (∀ (r : Http.Reply) (a : Acknowledgement), Declines r a → ∃ text,
      explanation? a.description (r.body maxBody) = some text ∧
      Explains text a.description (r.body maxBody) ∧
      ∀ base config message call, prepare base config message = .send call →
        send base config message (fun _ => .reply r) = .error (.refused text)) ∧
    ∀ base config message answer text, send base config message answer = .error (.refused text) →
      ∃ call r a, answer call = .reply r ∧ Declines r a ∧
        explanation? a.description (r.body maxBody) = some text := by
  constructor
  · intro r a h
    obtain ⟨text, hreason, hexplains⟩ := exists_explanation h.body
    refine ⟨text, hreason, hexplains, fun base config message call hplan => ?_⟩
    rw [send_of_plan hplan, outcome_of_declines h, refusal, hreason, Option.getD_some]
  · intro base config message answer text h
    obtain ⟨call, hcall⟩ := exists_call_of_refused h
    obtain ⟨r, a, hreply, hdeclines, htext⟩ := declines_of_outcome hcall
    obtain ⟨reason, hreason, -⟩ := exists_explanation hdeclines.body
    rw [refusal, hreason, Option.getD_some] at htext
    exact ⟨call, r, a, hreply, hdeclines, htext ▸ hreason⟩

namespace Sample

/-- An object with a blank description and, in a member that is passed over, a malformed byte. -/
def garbled : Http.Reply :=
  ⟨200, [utf8 "\n\x7b\x22description\x22: \x22 \x22, \x22x\x22: \x22", [0xFF], utf8 "\x22\x7d "],
    true⟩

def listed : Http.Reply :=
  ⟨200, [utf8 "[false, \x22 chat not found\\n\x22]"], true⟩

theorem garbled_explained :
    Declines garbled ⟨false, some " "⟩ ∧ Declines listed ⟨false, some " chat not found\n"⟩ ∧
    send apiBase addressed "hi" (fun _ => .reply garbled) = .error (.refused
      "\x7b\x22description\x22: \x22 \x22, \x22x\x22: \x22\uFFFD\x22\x7d") ∧
    send apiBase addressed "hi" (fun _ => .reply listed) = .error (.refused "chat not found") := by
  have hgarbled : Declines garbled ⟨false, some " "⟩ := ⟨rfl, by decide +kernel, rfl⟩
  have hlisted : Declines listed ⟨false, some " chat not found\n"⟩ := ⟨rfl, by decide +kernel, rfl⟩
  obtain ⟨call, hplan⟩ : ∃ call, prepare apiBase addressed "hi" = .send call :=
    exists_call_of_url (by decide +kernel) (by decide)
  obtain ⟨explained, -⟩ := refusals_explained
  obtain ⟨text, -, hexplains, hsend⟩ := explained garbled _ hgarbled
  obtain ⟨text', -, hexplains', hsend'⟩ := explained listed _ hlisted
  refine ⟨hgarbled, hlisted, ?_, ?_⟩
  · have htext := hexplains.undescribed fun d hd => by
      cases hd
      decide
    rw [hsend _ _ _ call hplan, ← @String.ofList_toList text, htext]
    decide +kernel
  · rw [hsend' _ _ _ call hplan, hexplains'.described _ rfl (by decide)]
    decide +kernel

end Sample

end HostAlert.Delivery
