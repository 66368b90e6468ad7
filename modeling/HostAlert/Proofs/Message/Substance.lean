import HostAlert.Delivery
import HostAlert.Message.Compose

/-!
# Messages are never blank

A line of a message is found again in the text of the message (`mem_render`). The headline of an
alert and the type in the report of a filter update have a character that is not blank, so both keep
a text whatever is trimmed and cut off, and their delivery always takes a call or fails
(`Delivery.prepare_alert`, `Delivery.prepare_filterUpdate`).
-/

namespace HostAlert

theorem Text.trim_ne_nil {s : List Char} {c : Char} (hc : c ∈ s) (hb : isBlank c = false) :
    trim s ≠ [] := by
  intro h
  rw [trim_eq_nil_iff.mp h c hc] at hb
  cases hb

namespace Message

theorem mem_render {lines : List String} {line : String} {c : Char} (hl : line ∈ lines)
    (hc : c ∈ line.toList) : c ∈ (render lines).toList := by
  unfold render
  induction lines with
  | nil => cases hl
  | cons first rest ih =>
    cases rest with
    | nil =>
      rw [List.mem_singleton] at hl
      subst hl
      simpa using hc
    | cons second rest =>
      rw [String.intercalate_cons_cons, String.toList_append, List.mem_append]
      rcases List.mem_cons.mp hl with rfl | hl
      · exact .inl (by simp [hc])
      · exact .inr (ih hl)

theorem headline_mem_alertLines (config : TelegramConfig) (m : Metric) (value threshold : Float)
    (info : Snapshot) : headline m ∈ alertLines config m value threshold info := by
  simp [alertLines]

theorem exists_not_blank_alert (config : TelegramConfig) (m : Metric) (value threshold : Float)
    (info : Snapshot) :
    ∃ c ∈ (alert config m value threshold info).toList, Text.isBlank c = false := by
  refine ⟨'🚨', mem_render (headline_mem_alertLines config m value threshold info) ?_, by decide⟩
  simp [headline]

theorem trim_alert (config : TelegramConfig) (m : Metric) (value threshold : Float)
    (info : Snapshot) : Text.trim (alert config m value threshold info).toList ≠ [] := by
  obtain ⟨c, hc, hb⟩ := exists_not_blank_alert config m value threshold info
  exact Text.trim_ne_nil hc hb

theorem kind_mem_filterUpdateLines (config : TelegramConfig) (update : FilterUpdate)
    (info : Snapshot) :
    "🗂️ Type: " ++ kindLabel update.kind ∈ filterUpdateLines config update info := by
  simp [filterUpdateLines]

theorem exists_not_blank_filterUpdate (config : TelegramConfig) (update : FilterUpdate)
    (info : Snapshot) :
    ∃ c ∈ (filterUpdate config update info).toList, Text.isBlank c = false := by
  refine ⟨'🗂', mem_render (kind_mem_filterUpdateLines config update info) ?_, by decide⟩
  simp

theorem trim_filterUpdate (config : TelegramConfig) (update : FilterUpdate) (info : Snapshot) :
    Text.trim (filterUpdate config update info).toList ≠ [] := by
  obtain ⟨c, hc, hb⟩ := exists_not_blank_filterUpdate config update info
  exact Text.trim_ne_nil hc hb

end Message

namespace Delivery

theorem messageText_ne_empty {message : String} (h : Text.trim message.toList ≠ []) :
    (messageText message).isEmpty = false := by
  have hcut : (Text.trim message.toList).take maxLength ≠ [] := by
    rw [ne_eq, List.take_eq_nil_iff]
    rintro (hlength | hnil)
    · cases hlength
    · exact h hnil
  rw [messageText, Bool.eq_false_iff, ne_eq, String.isEmpty_iff, String.ofList_eq_empty_iff]
  exact hcut

theorem prepare_ne_skip {message : String} (h : Text.trim message.toList ≠ []) (base : String)
    (config : TelegramConfig) : prepare base config message ≠ .skip := by
  unfold prepare
  dsimp only
  rw [messageText_ne_empty h, if_neg Bool.false_ne_true]
  split
  · split <;> simp
  · simp

/-- Delivering an alert is never skipped. -/
theorem prepare_alert (base : String) (config config' : TelegramConfig) (m : Metric)
    (value threshold : Float) (info : Snapshot) :
    prepare base config (Message.alert config' m value threshold info) ≠ .skip :=
  prepare_ne_skip (Message.trim_alert config' m value threshold info) base config

theorem prepare_filterUpdate (base : String) (config config' : TelegramConfig)
    (update : FilterUpdate) (info : Snapshot) :
    prepare base config (Message.filterUpdate config' update info) ≠ .skip :=
  prepare_ne_skip (Message.trim_filterUpdate config' update info) base config

/-- A message that is not blank is sent wherever there is a URL to send it to. -/
theorem prepare_of_url {base : String} {config : TelegramConfig} {url : Http.Url}
    (h : Http.Url.ofText? (endpoint base config.botToken) = some url)
    (hs : url.isSendable = true) {message : String} (hm : Text.trim message.toList ≠ []) :
    prepare base config message =
      .send ⟨url, some (form config.chatId (messageText message))⟩ := by
  unfold prepare
  dsimp only
  rw [messageText_ne_empty hm, if_neg Bool.false_ne_true, h]
  dsimp only
  rw [if_pos hs]

theorem exists_call_of_url {base : String} {config : TelegramConfig}
    (h : (Http.Url.ofText? (endpoint base config.botToken)).any Http.Url.isSendable = true)
    {message : String} (hm : Text.trim message.toList ≠ []) :
    ∃ call, prepare base config message = .send call := by
  obtain ⟨url, hsome, hsend⟩ := (Option.any_eq_true _ _).mp h
  exact ⟨_, prepare_of_url hsome hsend hm⟩

end Delivery

end HostAlert
