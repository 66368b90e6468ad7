import HostAlert.Proofs.Codec.Config
import HostAlert.Proofs.Control.Replacement
import HostAlert.Proofs.Manager.Invariant

/-!
# Settings that are read and sent back

Settings that were accepted once are answered with a document that is accepted again and changes
nothing, at any moment of any interleaving (`Session.repeated`). Only its size may be too great: the
document has every member, which the body that was accepted before need not have
(`Sample.swollen_refused`).
-/

namespace HostAlert

open Control Json Manager

namespace Manager

theorem clearAll_of_silent {alerts : AlertStates} (h : ∀ m, (alerts.get m).active = false) :
    alerts.clearAll = alerts := by
  obtain ⟨⟨cpu, _⟩, ⟨memory, _⟩, ⟨disk, _⟩⟩ := alerts
  obtain rfl : cpu = false := h .cpu
  obtain rfl : memory = false := h .memory
  obtain rfl : disk = false := h .disk
  rfl

/-- Storing the settings once more changes nothing: if they switch notifications off, there is no
alert to end. -/
theorem Shared.Sound.replaceConfig_self {shared : Shared} (h : shared.Sound) :
    shared.replaceConfig shared.config = shared := by
  obtain ⟨config, alerts⟩ := shared
  have hnormal : config.normalize = config :=
    TelegramConfig.normalize_of_durations h.checkInterval h.cooldown
  unfold Shared.replaceConfig
  cases hon : config.enabled with
  | true => simp only [hnormal, if_true]
  | false => simp only [hnormal, Bool.false_eq_true, if_false, clearAll_of_silent (h.silent hon)]

theorem System.Reach.sound {base : String} {config : TelegramConfig} {s : System}
    (h : Reach base config s) : s.shared.Sound := by
  induction h with
  | initial => exact Shared.sound_initial config
  | move _ moved ih => exact moved.sound ih

end Manager

namespace Rehearsal.Session

variable {p : Policy} {r : Request} {s : Session}

theorem serve_config (handler : p.handler? r = some .config) (method : r.method = "GET")
    (wording : Json.Wording) (s : Session) :
    (s.serve p wording r).1 = s ∧ (s.serve p wording r).2.status = 200 ∧
      (s.serve p wording r).2.body = .json s.shared.config.toValue := by
  have hput : r.method ≠ "PUT" := by
    rw [method]
    decide
  have hhead : r.method ≠ "HEAD" := by
    rw [method]
    decide
  have hserve := serve_of_handler handler wording s
  rwa [dropsBody_of_method hhead, if_neg Bool.false_ne_true, Endpoint.action, if_neg hput] at hserve

theorem serve_reread (puts : p.Puts r) (json : r.isJson = true)
    (body : r.body = s.shared.config.toValue.bytes) (sound : s.shared.Sound)
    (valid : s.shared.config.Valid) (thresholds : ∀ m, ReadsBack (s.shared.config.threshold m))
    (wording : Json.Wording) : (s.serve p wording r).1.shared = s.shared ∧
      (s.serve p wording r).2.status = if r.body.length ≤ maxBody then 200 else 400 := by
  by_cases hsize : r.body.length ≤ maxBody
  · have reads := (Submission.rereads_of_valid valid thresholds).alone
    have submits : r.Submits (.ofConfig s.shared.config) := ⟨json, hsize, [], body ▸ reads⟩
    obtain ⟨hstatus, hshared⟩ :=
      serve_accepted puts submits (Submission.validate_ofConfig valid) wording s
    rw [hshared, sound.replaceConfig_self, if_pos hsize]
    exact ⟨rfl, hstatus⟩
  · have unread : ∀ submission, ¬ r.Submits submission := fun _ submits => hsize submits.size
    obtain ⟨hstatus, hsession⟩ := serve_unread puts unread wording s
    rw [hsession, if_neg hsize]
    exact ⟨rfl, hstatus⟩

/-- At any moment, if the settings are such that were accepted, their document is answered for them
and read as what they say. Sent back, it leaves the settings and all alerts as they are, and it is
accepted unless it is larger than a body may be. -/
theorem repeated {base : String} {config : TelegramConfig} {system : System}
    (reach : System.Reach base config system) (here : s.shared = system.shared)
    {submission : Submission} (stored : submission.validate = .ok s.shared.config)
    (thresholds : ∀ m, ReadsBack (s.shared.config.threshold m)) {get put : Request}
    (gets : p.handler? get = some .config) (method : get.method = "GET") (puts : p.Puts put)
    (json : put.isJson = true) (body : put.body = s.shared.config.toValue.bytes)
    (wording : Json.Wording) :
    ((s.serve p wording get).1 = s ∧ (s.serve p wording get).2.status = 200 ∧
      (s.serve p wording get).2.body = .json s.shared.config.toValue) ∧
    (Submission.read put.body = .ok (.ofConfig s.shared.config, []) ∧
      (Submission.ofConfig s.shared.config).validate = .ok s.shared.config) ∧
    (s.serve p wording put).1.shared = s.shared ∧
    (s.serve p wording put).2.status = if put.body.length ≤ maxBody then 200 else 400 := by
  have valid := Submission.valid_of_validate stored
  have sound : s.shared.Sound := here ▸ reach.sound
  have reads := (Submission.rereads_of_valid valid thresholds).alone
  exact ⟨serve_config gets method wording s, ⟨body ▸ reads, Submission.validate_ofConfig valid⟩,
    serve_reread puts json body sound valid thresholds wording⟩

end Rehearsal.Session

namespace Rehearsal.Sample

open Text.Utf8 (encode)

def fetching : Request :=
  ⟨"GET", "/control/notifications/telegram", [(Guard.secretHeader, utf8 "s")], []⟩

theorem handler_fetching : (Policy.mk (some "s") false).handler? fetching = some .config := by
  decide +kernel

def submitting (v : Value) : Request :=
  { plain with body := v.bytes }

theorem puts_submitting (v : Value) : (Policy.mk (some "s") false).Puts (submitting v) :=
  ⟨puts_plain.handler, rfl⟩

theorem isJson_submitting (v : Value) : (submitting v).isJson = true := by
  have hplain : plain.isJson = true := by decide +kernel
  exact hplain

def quoting : TelegramConfig :=
  { TelegramConfig.initial with
    enabled := true, botToken := "t", chatId := "1", diskThreshold := 99.5,
    customMessage := "\x22a\x22\nb" }

theorem valid_quoting : quoting.Valid where
  checkInterval := by decide
  cooldown := by decide
  wholeMillis := ⟨rfl, rfl⟩
  thresholds m := by cases m <;> decide +kernel
  botToken := by decide
  chatId := by decide
  customMessage := by decide
  credentials _ := by decide

theorem readsBack_quoting : ∀ m, ReadsBack (quoting.threshold m)
  | .cpu => by decide +kernel
  | .memory => by decide +kernel
  | .disk => by decide +kernel

theorem quoting_repeated : ∃ s : Session, s.shared.config = quoting ∧
    (s.serve ⟨some "s", false⟩ unworded fetching).2.body = .json quoting.toValue ∧
    (s.serve ⟨some "s", false⟩ unworded (submitting quoting.toValue)).2.status = 200 ∧
    (s.serve ⟨some "s", false⟩ unworded (submitting quoting.toValue)).1.shared = s.shared := by
  obtain ⟨s, hs⟩ : ∃ s : Session, s.shared = .initial quoting :=
    ⟨{ quiet with shared := .initial quoting }, rfl⟩
  have hconfig : s.shared.config = quoting := by
    rw [hs]
    exact valid_quoting.normalize
  have hsize : (submitting quoting.toValue).body.length ≤ maxBody := by decide +kernel
  have reach : System.Reach Peer.base quoting (.initial quoting) := .initial
  obtain ⟨⟨-, -, hbody⟩, -, hshared, hstatus⟩ := Session.repeated reach hs
    (by rw [hconfig]; exact Submission.validate_ofConfig valid_quoting)
    (by rw [hconfig]; exact readsBack_quoting) handler_fetching rfl
    (puts_submitting quoting.toValue) (isJson_submitting _) (by rw [hconfig]; rfl) unworded
  rw [hconfig] at hbody
  rw [if_pos hsize] at hstatus
  exact ⟨s, hconfig, hbody, hstatus, hshared⟩

/-! ### A document that is too large to be sent back -/

def letters (n : Nat) : String := String.ofList (List.replicate n 'x')

theorem length_letters (n : Nat) : (Value.text (letters n)).bytes.length = n + 2 := by
  have hplain : (letters n).toList.flatMap Value.escape = List.replicate n 'x' := by
    rw [letters, String.toList_ofList]
    induction n with
    | zero => rfl
    | succ n ih =>
      rw [List.replicate_succ, List.flatMap_cons, ih]
      rfl
  have hbytes : (Value.text (letters n)).bytes = _ := encode_quoted (letters n)
  rw [hbytes, hplain, encode_replicate (by decide)]
  simp only [List.length_cons, List.length_append, List.length_replicate, List.length_nil]

theorem trimmed_letters (n : Nat) : Text.trimmed (letters n) = letters n := by
  rw [Text.trimmed, letters, String.toList_ofList, Text.trim_replicate (by decide)]

def swellingFront : List (String × Value) :=
  [("check_interval", .whole 60000), ("cooldown", .whole 60000)]

/-- A document with the shortest durations and a message of `n` letters. -/
def swelling (n : Nat) : Value :=
  .object (swellingFront ++ [("custom_message", .text (letters n))])

def swollen (n : Nat) : TelegramConfig :=
  { TelegramConfig.initial with
    cpuThreshold := 0, memoryThreshold := 0, diskThreshold := 0, customMessage := letters n }

def swollenFront : List (String × Value) :=
  [ ("enabled", .bool false), ("bot_token", .text ""), ("chat_id", .text ""),
    ("cpu_threshold", .double 0), ("memory_threshold", .double 0), ("disk_threshold", .double 0),
    ("check_interval", TelegramConfig.durationValue TelegramConfig.defaultCheckInterval),
    ("cooldown", TelegramConfig.durationValue TelegramConfig.defaultCooldown) ]

theorem toValue_swollen (n : Nat) : (swollen n).toValue =
    .object (swollenFront ++ [("custom_message", .text (letters n))]) := rfl

theorem length_name : (encode (Value.quoted "custom_message")).length = 16 := by decide

theorem length_swelling (n : Nat) : (swelling n).bytes.length = n + 61 := by
  have hfront : (Value.object swellingFront).bytes.length = 41 := by decide +kernel
  have hsome : swellingFront ≠ [] := List.cons_ne_nil _ _
  rw [swelling, Value.length_object_concat hsome, hfront, length_name, length_letters]
  omega

def submitted (n : Nat) : Submission :=
  { Submission.empty with
    checkInterval := .ofInt 60000, cooldown := .ofInt 60000, customMessage := letters n }

theorem rereads_swelling (n : Nat) : Rereads Submission.read (swelling n) (submitted n) :=
  rereads_record
    (.written rfl rfl (rereads_int64 (by decide) (by decide)) <|
      .written rfl rfl (rereads_int64 (by decide) (by decide)) <|
      .written rfl rfl (rereads_text (letters n)) .nil) rfl

theorem validate_submitted (n : Nat) : (submitted n).validate = .ok (swollen n) := by
  have hzero : (0 : Float) ≤ 0 ∧ (0 : Float) ≤ 100 := by decide +kernel
  have hrange : 60000 ≤ (Int64.ofInt 60000).toInt ∧ (Int64.ofInt 60000).toInt ≤ 86400000 := by
    decide
  have acceptable : (submitted n).Acceptable :=
    ⟨hrange, hrange, fun m => by cases m <;> exact hzero, nofun⟩
  refine Submission.validate_eq_ok_iff.mpr ⟨acceptable, ?_⟩
  have hspan : Span.ofMillis (Int64.ofInt 60000).toInt.toNat = .ofSeconds 60 := by decide
  simp only [Submission.settings, Submission.accepted, submitted, hspan, trimmed_letters]
  rfl

theorem length_swollen (n : Nat) : n + 61 < (swollen n).toValue.bytes.length := by
  have hfront : 41 < (Value.object swollenFront).bytes.length := by decide +kernel
  have hsome : swollenFront ≠ [] := List.cons_ne_nil _ _
  rw [toValue_swollen, Value.length_object_concat hsome, length_name, length_letters]
  omega

theorem serve_swelling {n : Nat} (h : n + 61 ≤ maxBody) (s : Session) :
    (s.serve ⟨some "s", false⟩ unworded (submitting (swelling n))).2.status = 200 ∧
      (s.serve ⟨some "s", false⟩ unworded (submitting (swelling n))).1.shared.config =
        swollen n := by
  have hsize : (submitting (swelling n)).body.length ≤ maxBody := (length_swelling n).trans_le h
  have submits : (submitting (swelling n)).Submits (submitted n) :=
    ⟨isJson_submitting _, hsize, [], (rereads_swelling n).alone⟩
  obtain ⟨hstatus, hshared⟩ := Session.serve_accepted (puts_submitting (swelling n)) submits
    (validate_submitted n) unworded s
  rw [hshared]
  exact ⟨hstatus, (Submission.valid_of_validate (validate_submitted n)).normalize⟩

theorem not_submits_swollen {n : Nat} (h : maxBody ≤ n + 61) (submission : Submission) :
    ¬ (submitting (swollen n).toValue).Submits submission :=
  fun submits => Nat.not_lt.mpr submits.size (Nat.lt_of_le_of_lt h (length_swollen n))

/-- Settings that were accepted may have a document that is refused: it has more members than the
body that was accepted. -/
theorem swollen_refused : ¬ ∀ (base : String) (config : TelegramConfig) (system : System)
    (s : Session) (p : Policy) (wording : Json.Wording) (store get put : Request),
    System.Reach base config system → s.shared = system.shared → p.Puts store →
    (s.serve p wording store).2.status = 200 →
    (∀ m, ReadsBack ((s.serve p wording store).1.shared.config.threshold m)) →
    p.handler? get = some .config → get.method = "GET" → p.Puts put → put.isJson = true →
    (∀ v, ((s.serve p wording store).1.serve p wording get).2.body = .json v →
      put.body = v.bytes) →
    ((s.serve p wording store).1.serve p wording put).2.status = 200 := by
  intro h
  obtain ⟨n, hn⟩ : ∃ n, n + 61 = maxBody := ⟨maxBody - 61, by decide⟩
  obtain ⟨s, hs⟩ : ∃ s : Session, s.shared = .initial .initial := ⟨quiet, rfl⟩
  obtain ⟨hstatus, hconfig⟩ := serve_swelling (Nat.le_of_eq hn) s
  generalize hstored : (s.serve ⟨some "s", false⟩ unworded (submitting (swelling n))).1 = stored
    at hconfig
  have hzero : ReadsBack 0 := by decide +kernel
  have thresholds : ∀ m, ReadsBack (stored.shared.config.threshold m) := by
    rw [hconfig]
    intro m
    cases m <;> exact hzero
  have hbody := (Session.serve_config handler_fetching rfl unworded stored).2.2
  have hanswer := h Peer.base .initial _ s ⟨some "s", false⟩ unworded (submitting (swelling n))
    fetching (submitting (swollen n).toValue) .initial hs (puts_submitting _) hstatus
  rw [hstored] at hanswer
  have haccepted := hanswer thresholds handler_fetching rfl (puts_submitting _)
    (isJson_submitting _) fun v hv => by
      rw [hbody, hconfig] at hv
      cases hv
      rfl
  obtain ⟨hrefused, -⟩ := Session.serve_unread (puts_submitting _)
    (not_submits_swollen (Nat.le_of_eq hn.symm)) unworded stored
  rw [hrefused] at haccepted
  cases haccepted

end Rehearsal.Sample

end HostAlert
