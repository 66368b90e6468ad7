import HostAlert.Proofs.Http.Form
import HostAlert.Proofs.Message.Substance
import HostAlert.Proofs.Text.Trim

/-!
# What is posted for a message

The text that is sent for a message is the longest beginning of at most `Delivery.maxLength`
characters of the trimmed message (`Delivery.IsTextOf`). The form of a call is read back as the chat
and this text, whatever the two hold (`Delivery.posts_of_prepare`). What counts as delivered is a
reply with the status of success whose body is empty or says so (`Delivery.outcome_eq_ok_iff`).
-/

namespace HostAlert

namespace Delivery

/-! ### Texts -/

/-- What is to be sent for a message. -/
structure IsTextOf (message text : String) : Prop where
  front : text.toList <+: Text.trim message.toList
  short : text.toList.length ≤ maxLength
  /-- No longer beginning is short enough. -/
  longest : ∀ u, u <+: Text.trim message.toList → u.length ≤ maxLength → u <+: text.toList
  /-- Something is sent, and it does not begin with a blank character. -/
  head : ∃ c rest, text.toList = c :: rest ∧ Text.isBlank c = false
  whole : (Text.trim message.toList).length ≤ maxLength →
    text.toList = Text.trim message.toList

theorem isTextOf_messageText {message : String} (h : (messageText message).isEmpty = false) :
    IsTextOf message (messageText message) := by
  have htext : (messageText message).toList = (Text.trim message.toList).take maxLength := by
    rw [messageText, String.toList_ofList]
  refine ⟨?_, ?_, fun u hu hlen => ?_, ?_, fun hlen => ?_⟩
  · rw [htext]
    exact List.take_prefix ..
  · rw [htext]
    exact List.length_take_le ..
  · rw [htext]
    exact List.prefix_take_iff.mpr ⟨hu, hlen⟩
  · cases htrim : Text.trim message.toList with
    | nil =>
      rw [messageText, htrim, List.take_nil] at h
      cases h
    | cons c rest =>
      refine ⟨c, rest.take (maxLength - 1), ?_, Text.not_blank_of_trim_eq_cons htrim⟩
      rw [htext, htrim]
      rfl
  · rw [htext, List.take_of_length_le hlen]

/-! ### Calls -/

/-- The call posts a form that reads as the chat and the text of the message, in this order. -/
structure Posts (call : Http.Call) (chatId message : String) : Prop where
  form : ∃ pairs, call.form = some pairs ∧ Http.Form.decode (Http.Form.encode pairs) =
    [("chat_id", chatId), ("text", messageText message)]
  text : IsTextOf message (messageText message)

/-- Every call that delivers a message posts its text to the chat of the settings. -/
theorem posts_of_prepare {base : String} {config : TelegramConfig} {message : String}
    {call : Http.Call} (h : prepare base config message = .send call) :
    Posts call config.chatId message := by
  unfold prepare at h
  dsimp only at h
  split at h
  · cases h
  · next hne =>
    split at h
    · split at h
      · cases h
        exact ⟨⟨_, rfl, Http.Form.decode_encode _⟩,
          isTextOf_messageText (Bool.eq_false_iff.mpr hne)⟩
      · cases h
    · cases h

/-! ### Answers -/

/-- The reply has the status of success, and what is read of its body is empty or an
acknowledgement that the message was taken. -/
structure Confirms (r : Http.Reply) : Prop where
  status : r.status = 200
  body : r.body maxBody = [] ∨
    ∃ a, Json.document Acknowledgement.read (r.body maxBody) = .ok a ∧ a.ok = true

theorem acknowledged_eq_ok_iff {body : Bytes} : acknowledged body = .ok () ↔
    body = [] ∨ ∃ a, Json.document Acknowledgement.read body = .ok a ∧ a.ok = true := by
  unfold acknowledged
  split
  · next hempty => simp [List.isEmpty_iff.mp hempty]
  · next hempty =>
    have hne : body ≠ [] := fun h => hempty (List.isEmpty_iff.mpr h)
    cases hread : Json.document Acknowledgement.read body with
    | error fault => simp [hne]
    | ok a =>
      cases hok : a.ok with
      | true => simp [hok]
      | false => simp [hne, hok]

/-- A delivery succeeds exactly when the answer is a reply that confirms it. -/
theorem outcome_eq_ok_iff {answer : Http.Answer} :
    outcome answer = .ok () ↔ ∃ r, answer = .reply r ∧ Confirms r := by
  cases answer with
  | failed =>
    constructor
    · intro h
      cases h
    · rintro ⟨r, hr, -⟩
      cases hr
  | reply r =>
    rw [outcome]
    constructor
    · intro h
      split at h
      · next hstatus => exact ⟨r, rfl, hstatus, acknowledged_eq_ok_iff.mp h⟩
      · cases h
    · rintro ⟨r', hr', hstatus, hbody⟩
      cases hr'
      rw [if_pos hstatus]
      exact acknowledged_eq_ok_iff.mpr hbody

end Delivery

end HostAlert
