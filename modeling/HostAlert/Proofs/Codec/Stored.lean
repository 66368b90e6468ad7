import HostAlert.Proofs.Codec.Config
import HostAlert.Proofs.Json.Decoded
import HostAlert.Proofs.Json.Refusal

/-!
# Stored settings read again

The document of settings is read exactly when the settings are `Storable`, and as the settings with
their durations cut to whole milliseconds. Durations are written as unsigned numbers of 64 bits and
read as signed ones, and a threshold that is no finite number is written as the word for none, so
not all settings are. What is read from any document is storable and has whole durations
(`decoded_of_document`).
-/

namespace HostAlert

open Json

namespace Span

/-- The span is a duration that a document can give. -/
structure Decoded (d : Span) : Prop where
  range : d.millis < 0x8000000000000000
  whole : d.IsWhole

theorem decoded_ofMillis {n : Nat} (h : n < 0x8000000000000000) : (ofMillis n).Decoded :=
  ⟨by rwa [millis_ofMillis], isWhole_ofMillis n⟩

end Span

namespace TelegramConfig

/-- The document of the settings can be read. -/
structure Storable (c : TelegramConfig) : Prop where
  thresholds : ∀ m, (c.threshold m).isFinite = true
  checkInterval : c.checkInterval.millis < 0x8000000000000000
  cooldown : c.cooldown.millis < 0x8000000000000000

/-- The settings with durations of whole milliseconds. -/
def truncated (c : TelegramConfig) : TelegramConfig :=
  { c with
    checkInterval := .ofMillis c.checkInterval.millis
    cooldown := .ofMillis c.cooldown.millis }

/-! ### Reading what is written -/

theorem rereadsIf_duration (d : Span) :
    RereadsIf (d.millis < 0x8000000000000000) duration (durationValue d) (.ofMillis d.millis) := by
  refine ⟨fun h lead rest hlead hrest => ?_, fun h lead rest hlead hrest => ?_⟩
  · have hmillis : (Int64.ofInt d.millis).toInt.toNat = d.millis := by
      rw [Int64.toInt_ofInt_of_le (by omega) (by omega), Int.toNat_natCast]
    rw [duration, rereads_duration h lead rest hlead hrest]
    show Except.ok (Span.ofMillis (Int64.ofInt d.millis).toInt.toNat, rest) = _
    rw [hmillis]
  · have hrefused : Refuses int64 (durationValue d) := by
      apply refuses_int64
      · simp only [maxMillis, UInt64.size]
        omega
      · simp only [maxMillis, UInt64.size]
        omega
    obtain ⟨e, he⟩ := hrefused lead rest hlead hrest
    exact ⟨e, by rw [duration, he]; rfl⟩

variable {c : TelegramConfig}

theorem finite_thresholds : (∀ m, (c.threshold m).isFinite = true) ↔
    c.cpuThreshold.isFinite = true ∧ c.memoryThreshold.isFinite = true ∧
      c.diskThreshold.isFinite = true :=
  Metric.forall_iff

theorem storable_iff : c.Storable ↔ c.cpuThreshold.isFinite = true ∧
    c.memoryThreshold.isFinite = true ∧ c.diskThreshold.isFinite = true ∧
    c.checkInterval.millis < 0x8000000000000000 ∧ c.cooldown.millis < 0x8000000000000000 := by
  constructor
  · rintro ⟨hthresholds, hinterval, hcooldown⟩
    obtain ⟨hcpu, hmemory, hdisk⟩ := finite_thresholds.mp hthresholds
    exact ⟨hcpu, hmemory, hdisk, hinterval, hcooldown⟩
  · rintro ⟨hcpu, hmemory, hdisk, hinterval, hcooldown⟩
    exact ⟨finite_thresholds.mpr ⟨hcpu, hmemory, hdisk⟩, hinterval, hcooldown⟩

theorem rereadsIf_toValue
    (library : ∀ m, (c.threshold m).isFinite = true → ReadsBack (c.threshold m)) :
    RereadsIf c.Storable read c.toValue c.truncated := by
  refine RereadsIf.of_iff (rereadsIf_record
    (.always rfl rfl (rereads_bool c.enabled) <|
      .always rfl rfl (rereads_text c.botToken) <|
      .always rfl rfl (rereads_text c.chatId) <|
      .written rfl rfl (rereadsIf_double (library .cpu)) <|
      .written rfl rfl (rereadsIf_double (library .memory)) <|
      .written rfl rfl (rereadsIf_double (library .disk)) <|
      .written rfl rfl (rereadsIf_duration c.checkInterval) <|
      .written rfl rfl (rereadsIf_duration c.cooldown) <|
      .always rfl rfl (rereads_text c.customMessage) .nil) rfl) ?_
  rw [storable_iff, and_true]

/-! ### What is read -/

/-- The settings are such as a document can give. -/
structure Decoded (c : TelegramConfig) : Prop where
  thresholds : ∀ m, (c.threshold m).isFinite = true
  checkInterval : c.checkInterval.Decoded
  cooldown : c.cooldown.Decoded

theorem Decoded.storable (h : c.Decoded) : c.Storable :=
  ⟨h.thresholds, h.checkInterval.range, h.cooldown.range⟩

theorem Decoded.truncated (h : c.Decoded) : c.truncated = c := by
  have hinterval : Span.ofMillis c.checkInterval.millis = c.checkInterval := h.checkInterval.whole
  have hcooldown : Span.ofMillis c.cooldown.millis = c.cooldown := h.cooldown.whole
  rw [TelegramConfig.truncated, hinterval, hcooldown]

theorem decoded_initial : initial.Decoded where
  thresholds m := by
    cases m <;> decide +kernel
  checkInterval := ⟨by decide, rfl⟩
  cooldown := ⟨by decide, rfl⟩

theorem decoded_of_duration {s rest : Bytes} {d : Span} (h : duration s = .ok (d, rest)) :
    d.Decoded := by
  obtain ⟨⟨n, t⟩, -, heq⟩ := ok_of_map h
  cases heq
  have hlt := n.toInt_lt
  exact Span.decoded_ofMillis (by omega)

/-- Every member keeps what a document gives: texts do not bear on it, and the others are read as
finite doubles and as whole milliseconds. -/
theorem keeps_decoded : ∀ m ∈ members, m.Keeps Decoded := by
  have free {α : Type} {name : String} {read : Reader α} {put : TelegramConfig → α → TelegramConfig}
      (same : ∀ c a, c.Decoded → (put c a).Decoded) :
      (Member.of name .kept read put).Keeps Decoded :=
    .of (q := fun _ => True) (fun _ _ _ _ => trivial) fun c a h _ => same c a h
  have finite {name : String} {put : TelegramConfig → Float → TelegramConfig}
      (same : ∀ c x, c.Decoded → x.isFinite = true → (put c x).Decoded) :
      (Member.of name .kept double put).Keeps Decoded :=
    .of (fun _ _ _ => isFinite_of_double) same
  have whole {name : String} {put : TelegramConfig → Span → TelegramConfig}
      (same : ∀ c d, c.Decoded → d.Decoded → (put c d).Decoded) :
      (Member.of name .kept duration put).Keeps Decoded :=
    .of (fun _ _ _ => decoded_of_duration) same
  simp only [members, List.forall_mem_cons]
  refine ⟨free fun c v h => ⟨h.thresholds, h.checkInterval, h.cooldown⟩,
    free fun c v h => ⟨h.thresholds, h.checkInterval, h.cooldown⟩,
    free fun c v h => ⟨h.thresholds, h.checkInterval, h.cooldown⟩,
    finite fun c x h hx => ⟨?_, h.checkInterval, h.cooldown⟩,
    finite fun c x h hx => ⟨?_, h.checkInterval, h.cooldown⟩,
    finite fun c x h hx => ⟨?_, h.checkInterval, h.cooldown⟩,
    whole fun c d h hd => ⟨h.thresholds, hd, h.cooldown⟩,
    whole fun c d h hd => ⟨h.thresholds, h.checkInterval, hd⟩,
    free fun c v h => ⟨h.thresholds, h.checkInterval, h.cooldown⟩, nofun⟩
  · exact finite_thresholds.mpr ⟨hx, h.thresholds .memory, h.thresholds .disk⟩
  · exact finite_thresholds.mpr ⟨h.thresholds .cpu, hx, h.thresholds .disk⟩
  · exact finite_thresholds.mpr ⟨h.thresholds .cpu, h.thresholds .memory, hx⟩

theorem decoded_of_document {s : Bytes} (h : document read s = .ok c) : c.Decoded := by
  obtain ⟨rest, hread⟩ := read_of_document h
  exact record_keeps keeps_decoded decoded_initial hread

/-- Settings are read from their document exactly if their thresholds are finite and their durations
below 2^63 milliseconds, and then as they are but for parts of milliseconds. So what was read from
any document is read from its own document again. -/
theorem document_toValue (c : TelegramConfig)
    (library : ∀ m, (c.threshold m).isFinite = true → ReadsBack (c.threshold m)) :
    (∀ c', document read c.toValue.bytes = .ok c' ↔ c.Storable ∧ c' = c.truncated) ∧
      ∀ d, document read d = .ok c → document read c.toValue.bytes = .ok c := by
  have hdocument (c' : TelegramConfig) :
      document read c.toValue.bytes = .ok c' ↔ c.Storable ∧ c' = c.truncated :=
    (rereadsIf_toValue library).document_iff
  refine ⟨hdocument, fun d hd => ?_⟩
  have hdecoded := decoded_of_document hd
  exact (hdocument c).mpr ⟨hdecoded.storable, hdecoded.truncated.symm⟩

namespace Sample

/-- Texts that need escapes, and durations just below the next millisecond, the second one also
just below the largest that is read. -/
def quoting : TelegramConfig :=
  ⟨true, "12:\x22a\x5cb\x22", "\x00\n☂𝄞", 99.5, 0.1, 100, ⟨60000999999⟩,
    ⟨9223372036854775807999999⟩, ""⟩

/-- The same with a threshold that is no finite number. -/
def unbounded : TelegramConfig :=
  { quoting with cpuThreshold := 1 / 0 }

def spelled : Bytes :=
  utf8 (" \x7b\x22cooldown\x22: -5, \x22cpu_threshold\x22 :0.1e2," ++
    "\x22bot_token\x22:\x22\x5cu0041\x22\x7d")

def given : TelegramConfig :=
  { initial with cooldown := .ofMillis 0, cpuThreshold := 10, botToken := "A" }

theorem storable_quoting : quoting.Storable where
  thresholds m := by cases m <;> decide +kernel
  checkInterval := by decide +kernel
  cooldown := by decide +kernel

theorem read_spelled : document read spelled = .ok given := by
  have hsome : (document read spelled).toOption = some given := by decide +kernel
  cases hdocument : document read spelled with
  | error e =>
    rw [hdocument] at hsome
    cases hsome
  | ok c =>
    rw [hdocument] at hsome
    exact congrArg Except.ok (Option.some.inj hsome)

/-- The first settings are read without the parts of milliseconds, the second ones are not read, and
what the document says is read again as it is. -/
theorem quoting_truncated : quoting.truncated ≠ quoting ∧
    document read quoting.toValue.bytes = .ok quoting.truncated ∧
    (∀ c, document read unbounded.toValue.bytes ≠ .ok c) ∧
    document read spelled = .ok given ∧ document read given.toValue.bytes = .ok given := by
  have hquoting : ∀ m, (quoting.threshold m).isFinite = true →
      ReadsBack (quoting.threshold m) := by
    intro m _
    cases m <;> decide +kernel
  have hunbounded : ∀ m, (unbounded.threshold m).isFinite = true →
      ReadsBack (unbounded.threshold m) := by
    intro m hfinite
    cases m with
    | cpu => exact absurd hfinite (by decide +kernel)
    | memory => decide +kernel
    | disk => decide +kernel
  have hgiven : ∀ m, (given.threshold m).isFinite = true → ReadsBack (given.threshold m) := by
    intro m _
    cases m <;> decide +kernel
  refine ⟨by decide +kernel, ?_, fun c hc => ?_, read_spelled, ?_⟩
  · exact ((document_toValue quoting hquoting).1 _).mpr ⟨storable_quoting, rfl⟩
  · have hfinite := (((document_toValue unbounded hunbounded).1 c).mp hc).1.thresholds .cpu
    exact absurd hfinite (by decide +kernel)
  · exact (document_toValue given hgiven).2 spelled read_spelled

end Sample

end TelegramConfig

end HostAlert
