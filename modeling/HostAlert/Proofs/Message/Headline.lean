import HostAlert.Proofs.Config.Validation
import HostAlert.Proofs.Delivery.Post

/-!
# Headlines of alerts

An alert begins with the custom message, then comes the headline, which says what the alert is
about, then the rest (`Message.trim_alert_of_ne_nil`). A delivery keeps the first characters only,
so a custom message that is long enough pushes the headline out. `Submission.headline_shown_iff`
says when the request for an alert still shows it as a line of its own.
-/

namespace HostAlert

namespace Text

variable {s r : List Char}

/-- Trimming a text that begins with no blank character, and has more than blank characters after
a line feed, trims only the end of these. -/
theorem trim_append_feed {c : Char} (hc : isBlank c = false) (hr : ¬ ∀ d ∈ r, isBlank d) :
    trim (c :: s ++ '\n' :: r) = c :: s ++ '\n' :: trimEnd r := by
  have hfeed : ¬ ∀ d ∈ '\n' :: r, isBlank d := fun h =>
    hr fun d hd => h d (List.mem_cons_of_mem _ hd)
  have hend : trimEnd (['\n'] ++ r) = ['\n'] ++ trimEnd r := trimEnd_append hr
  rw [trim, List.cons_append, trimStart_of_not_blank hc, ← List.cons_append, trimEnd_append hfeed]
  exact congrArg _ hend

end Text

namespace Message

/-- The line stands in the text. -/
def Shows (text line : List Char) : Prop :=
  line ∈ text.splitOn '\n'

variable {front line rest : List Char}

theorem shows_first (hline : '\n' ∉ line) (k : Nat) :
    Shows (line ++ ('\n' :: rest).take k) line := by
  cases k with
  | zero =>
    rw [Shows, List.take_zero, List.append_nil, List.splitOn_eq_singleton hline]
    exact List.mem_singleton_self line
  | succ k =>
    rw [Shows, List.take_succ_cons, List.splitOn_append_cons_self_of_not_mem hline]
    exact List.mem_cons_self

theorem shows_cut_iff (hline : '\n' ∉ line) {k : Nat} (hk : k < line.length) :
    Shows (front ++ '\n' :: line.take k) line ↔ Shows front line := by
  have hcut : '\n' ∉ line.take k := fun h => hline (List.mem_of_mem_take h)
  have hne : line ≠ line.take k := fun h => by
    have hlength := congrArg List.length h
    rw [List.length_take] at hlength
    omega
  rw [Shows, List.splitOn_append_cons_self, List.splitOn_eq_singleton hcut, List.mem_append,
    List.mem_singleton, or_iff_left hne, Shows]

/-- A line of a text whose end is cut off is there if it fits in, or if what comes before it has
such a line itself. -/
theorem shows_take_iff (hline : '\n' ∉ line) (n : Nat) :
    Shows ((front ++ '\n' :: (line ++ '\n' :: rest)).take n) line ↔
      front.length + line.length < n ∨ Shows (front.take n) line := by
  by_cases hfit : front.length + line.length < n
  · obtain ⟨k, rfl⟩ : ∃ k, n = front.length + ((line.length + k) + 1) :=
      ⟨n - front.length - line.length - 1, by omega⟩
    rw [List.take_length_add_append, List.take_succ_cons, List.take_length_add_append]
    refine iff_of_true ?_ (.inl hfit)
    rw [Shows, List.splitOn_append_cons_self]
    exact List.mem_append_right _ (shows_first hline k)
  · -- the cut is in front of the line or within it
    rw [or_iff_right hfit]
    by_cases hin : n ≤ front.length
    · rw [List.take_append_of_le_length hin]
    · obtain ⟨k, rfl⟩ : ∃ k, n = front.length + (k + 1) := ⟨n - front.length - 1, by omega⟩
      rw [List.take_length_add_append, List.take_succ_cons,
        List.take_append_of_le_length (by omega), List.take_of_length_le (Nat.le_add_right _ _)]
      exact shows_cut_iff hline (by omega)

/-! ### Alerts -/

/-- What follows the headline of an alert. -/
def belowHeadline (m : Metric) (value threshold : Float) (info : Snapshot) : List String :=
  [ "",
    "📈 Metrics",
    "📍 Metric: " ++ m.displayName,
    "🔥 Current: " ++ percentage value,
    "🎯 Threshold: " ++ percentage threshold,
    "" ] ++ overviewLines info

theorem alertLines_eq (config : TelegramConfig) (m : Metric) (value threshold : Float)
    (info : Snapshot) : alertLines config m value threshold info =
      opening config.customMessage ++ headline m :: belowHeadline m value threshold info := by
  rw [alertLines, List.append_assoc]
  rfl

theorem toList_render_cons (line : String) {lines : List String} (h : lines ≠ []) :
    (render (line :: lines)).toList = line.toList ++ '\n' :: (render lines).toList := by
  cases lines with
  | nil => exact absurd rfl h
  | cons next lines =>
    rw [render, String.intercalate_cons_cons, String.toList_append, String.toList_append,
      List.append_assoc]
    rfl

theorem headline_no_feed (m : Metric) : '\n' ∉ (headline m).toList := by
  cases m <;> decide

theorem length_headline_le (m : Metric) : (headline m).toList.length ≤ 40 := by
  cases m <;> decide

theorem headline_begins (m : Metric) : ∃ s, (headline m).toList = '🚨' :: s := by
  cases m <;> exact ⟨_, rfl⟩

theorem not_blank_below (m : Metric) (value threshold : Float) (info : Snapshot) :
    ¬ ∀ c ∈ (render (belowHeadline m value threshold info)).toList, Text.isBlank c := by
  intro h
  have hline : "📈 Metrics" ∈ belowHeadline m value threshold info := by simp [belowHeadline]
  have hmem : '📈' ∈ (render (belowHeadline m value threshold info)).toList :=
    mem_render hline (by decide)
  exact absurd (h _ hmem) (by decide)

section Alert

variable (config : TelegramConfig) (m : Metric) (value threshold : Float) (info : Snapshot)

/-- What is left below the headline when an alert is trimmed. -/
def keptBelow : List Char :=
  Text.trimEnd (render (belowHeadline m value threshold info)).toList

/-- An alert without a custom message begins with its headline, -/
theorem trim_alert_of_nil (h : Text.trim config.customMessage.toList = []) :
    Text.trim (alert config m value threshold info).toList =
      (headline m).toList ++ '\n' :: keptBelow m value threshold info := by
  obtain ⟨s, hs⟩ := headline_begins m
  rw [alert, alertLines_eq, opening, if_pos ((Text.isEmpty_trimmed _).mpr h), List.nil_append,
    toList_render_cons _ (by simp [belowHeadline]), hs]
  exact Text.trim_append_feed (by decide) (not_blank_below m value threshold info)

/-- and one with a custom message begins with it, and goes on with its headline. -/
theorem trim_alert_of_ne_nil (h : Text.trim config.customMessage.toList ≠ []) :
    Text.trim (alert config m value threshold info).toList =
      Text.trim config.customMessage.toList ++ '\n' ::
        ((headline m).toList ++ '\n' :: keptBelow m value threshold info) := by
  obtain ⟨c, s, hs⟩ := List.exists_cons_of_ne_nil h
  rw [alert, alertLines_eq, opening, if_neg fun hempty => h ((Text.isEmpty_trimmed _).mp hempty),
    List.singleton_append, toList_render_cons _ (List.cons_ne_nil _ _),
    toList_render_cons _ (by simp [belowHeadline]), Text.toList_trimmed, hs]
  have habove := Text.trim_append_feed (s := s ++ '\n' :: (headline m).toList)
    (Text.not_blank_of_trim_eq_cons hs) (not_blank_below m value threshold info)
  simpa only [List.cons_append, List.append_assoc, keptBelow] using habove

/-- What is sent of an alert shows its headline exactly if the headline ends within the characters
that are sent, or if what is sent of the custom message has such a line itself. -/
theorem shows_alert_iff :
    Shows (Delivery.messageText (alert config m value threshold info)).toList (headline m).toList ↔
      (Text.trim config.customMessage.toList).length + (headline m).toList.length <
          Delivery.maxLength ∨
        Shows ((Text.trim config.customMessage.toList).take Delivery.maxLength)
          (headline m).toList := by
  have hline := headline_no_feed m
  rw [Delivery.messageText, String.toList_ofList]
  by_cases h : Text.trim config.customMessage.toList = []
  · have hfits : (headline m).toList.length ≤ Delivery.maxLength :=
      Nat.le_trans (length_headline_le m) (by decide)
    rw [trim_alert_of_nil config m value threshold info h, h, List.take_append,
      List.take_of_length_le hfits]
    refine iff_of_true (shows_first hline _) (.inl ?_)
    exact Nat.lt_of_le_of_lt (by simpa using length_headline_le m) (by decide)
  · rw [trim_alert_of_ne_nil config m value threshold info h]
    exact shows_take_iff hline _

end Alert

end Message

namespace Submission

open Delivery (maxLength prepare)

/-- The request for an alert, under settings that were submitted and accepted, shows the headline of
the alert exactly if the custom message leaves room for it, or if what is sent of the custom message
has such a line itself. A custom message of at most 4055 characters leaves room for any of them. -/
theorem headline_shown_iff {p : Submission} {c : TelegramConfig} (accepted : p.validate = .ok c)
    {base : String} {m : Metric} {value threshold : Float} {info : Snapshot} {call : Http.Call}
    (plan : prepare base c (Message.alert c m value threshold info) = .send call) :
    ∃ pairs text, call.form = some pairs ∧
      Http.Form.decode (Http.Form.encode pairs) = [("chat_id", c.chatId), ("text", text)] ∧
      (Message.Shows text.toList (Message.headline m).toList ↔
        c.customMessage.toList.length + (Message.headline m).toList.length < maxLength ∨
          Message.Shows (c.customMessage.toList.take maxLength) (Message.headline m).toList) ∧
      (c.customMessage.toList.length ≤ 4055 →
        Message.Shows text.toList (Message.headline m).toList) := by
  obtain ⟨pairs, hform, hpairs⟩ := (Delivery.posts_of_prepare plan).form
  have hcustom : Text.trim c.customMessage.toList = c.customMessage.toList := by
    rw [← Text.toList_trimmed, (valid_of_validate accepted).customMessage]
  have hshows := Message.shows_alert_iff c m value threshold info
  rw [hcustom] at hshows
  refine ⟨pairs, _, hform, hpairs, hshows, fun hshort => hshows.mpr (.inl ?_)⟩
  have hline := Message.length_headline_le m
  have hmax : maxLength = 4096 := rfl
  omega

namespace Sample

def titled (message : String) : TelegramConfig :=
  (usual "1:a" message).settings

theorem validate_titled (message : String) :
    (usual "1:a" message).validate = .ok (titled message) :=
  validate_usual (by decide) message

theorem exists_plan (message : String) (m : Metric) (value threshold : Float) (info : Snapshot) :
    ∃ call, prepare "http://h" (titled message)
      (Message.alert (titled message) m value threshold info) = .send call := by
  have hurl : (Http.Url.ofText? (Delivery.endpoint "http://h" "1:a")).any
      Http.Url.isSendable = true := by
    decide +kernel
  have htoken : "1:a" = (titled message).botToken := by
    have htrim : "1:a" = Text.trimmed "1:a" := by decide
    exact htrim
  rw [htoken] at hurl
  exact Delivery.exists_call_of_url hurl (Message.trim_alert _ m value threshold info)

theorem shown_below_title : ∃ call pairs text,
    prepare "http://h" (titled " dns-01 @ home ")
      (Message.alert (titled " dns-01 @ home ") .cpu 95 90 .empty) = .send call ∧
    call.form = some pairs ∧
    Http.Form.decode (Http.Form.encode pairs) = [("chat_id", "7"), ("text", text)] ∧
    Message.Shows text.toList "🚨 Alert: CPU usage exceeded threshold".toList := by
  obtain ⟨call, plan⟩ := exists_plan " dns-01 @ home " .cpu 95 90 .empty
  obtain ⟨pairs, text, hform, hpairs, -, hshort⟩ :=
    headline_shown_iff (validate_titled " dns-01 @ home ") plan
  exact ⟨call, pairs, text, plan, hform, hpairs, hshort (by decide)⟩

def wall (n : Nat) : String := String.ofList (List.replicate n 'x')

theorem messageText_wall (m : Metric) (value threshold : Float) (info : Snapshot) :
    Delivery.messageText (Message.alert (titled (wall maxLength)) m value threshold info) =
      wall maxLength := by
  have hstored (message : String) :
      (titled message).customMessage = Text.trimmed message := rfl
  have hcustom : Text.trim (titled (wall maxLength)).customMessage.toList =
      List.replicate maxLength 'x' := by
    rw [hstored, Text.toList_trimmed, Text.trim_trim, wall, String.toList_ofList,
      Text.trim_replicate (by decide)]
  have hne : Text.trim (titled (wall maxLength)).customMessage.toList ≠ [] := by
    rw [hcustom, ne_eq, List.replicate_eq_nil_iff]
    decide
  rw [Delivery.messageText, Message.trim_alert_of_ne_nil _ m value threshold info hne, hcustom,
    List.take_left' (List.length_replicate ..), wall]

/-- With this custom message nothing of the headline is shown. -/
theorem hidden_behind_wall : ∃ (p : Submission) (c : TelegramConfig) (base : String) (m : Metric)
    (value threshold : Float) (info : Snapshot) (call : Http.Call)
    (pairs : List (String × String)) (text : String),
    p.validate = .ok c ∧ c.enabled = true ∧
    prepare base c (Message.alert c m value threshold info) = .send call ∧
    call.form = some pairs ∧
    Http.Form.decode (Http.Form.encode pairs) = [("chat_id", c.chatId), ("text", text)] ∧
    text = wall 4096 ∧ ¬ (Message.headline m).toList <:+: text.toList := by
  obtain ⟨call, plan⟩ := exists_plan (wall maxLength) .cpu 95 90 .empty
  obtain ⟨pairs, hform, hpairs⟩ := (Delivery.posts_of_prepare plan).form
  have htext := messageText_wall .cpu 95 90 .empty
  refine ⟨usual "1:a" (wall maxLength), _, "http://h", .cpu, 95, 90, .empty, call, pairs, _,
    validate_titled (wall maxLength), rfl, plan, hform, hpairs, htext, fun hinfix => ?_⟩
  obtain ⟨s, hs⟩ := Message.headline_begins .cpu
  have hsign : '🚨' ∈ (Message.headline .cpu).toList := hs ▸ List.mem_cons_self
  have hletter := hinfix.subset hsign
  rw [htext, wall, String.toList_ofList] at hletter
  exact absurd (List.eq_of_mem_replicate hletter) (by decide)

end Sample

end Submission

end HostAlert
