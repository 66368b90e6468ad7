import HostAlert.Config.Submission
import HostAlert.Proofs.Text.Trim

/-!
# Which settings are accepted

A submission is accepted exactly when it is `Acceptable`, and what is stored are then its `settings`
(`validate_eq_ok_iff`). Stored like this, settings are `Valid`: normalization has nothing left to
replace (`Valid.normalize`), and sent back they are accepted as they are (`validate_ofConfig`).
-/

namespace HostAlert

namespace Span

/-- The span is a number of whole milliseconds. -/
def IsWhole (d : Span) : Prop :=
  ofMillis d.millis = d

theorem isWhole_ofMillis (n : Nat) : (ofMillis n).IsWhole := by
  rw [IsWhole, millis_ofMillis]

theorem ofSeconds_le_ofMillis {a n : Nat} : ofSeconds a ≤ ofMillis n ↔ a * 1000 ≤ n := by
  simp only [le_def, ofSeconds, ofMillis]
  omega

theorem ofMillis_le_ofSeconds {a n : Nat} : ofMillis n ≤ ofSeconds a ↔ n ≤ a * 1000 := by
  simp only [le_def, ofSeconds, ofMillis]
  omega

theorem isZero_eq_false_of_le {a : Nat} {d : Span} (h : ofSeconds (a + 1) ≤ d) :
    d.isZero = false := by
  have hnanos : (a + 1) * 1000000000 ≤ d.nanos := h
  exact beq_false_of_ne (by omega)

end Span

namespace TelegramConfig

open Submission

/-- The settings keep all rules for submitted settings. -/
structure Valid (c : TelegramConfig) : Prop where
  checkInterval : minCheckInterval ≤ c.checkInterval ∧ c.checkInterval ≤ maxCheckInterval
  cooldown : minCooldown ≤ c.cooldown ∧ c.cooldown ≤ maxCooldown
  wholeMillis : c.checkInterval.IsWhole ∧ c.cooldown.IsWhole
  thresholds : ∀ m, 0 ≤ c.threshold m ∧ c.threshold m ≤ 100
  botToken : Text.trimmed c.botToken = c.botToken
  chatId : Text.trimmed c.chatId = c.chatId
  customMessage : Text.trimmed c.customMessage = c.customMessage
  credentials : c.enabled = true → c.hasCredentials = true

theorem orDefault_of_isZero_eq_false {d : Span} (h : d.isZero = false) (fallback : Span) :
    orDefault d fallback = d := by
  rw [orDefault, h, if_neg Bool.false_ne_true]

theorem normalize_of_durations {c : TelegramConfig} (checkInterval : c.checkInterval.isZero = false)
    (cooldown : c.cooldown.isZero = false) : c.normalize = c := by
  rw [normalize, orDefault_of_isZero_eq_false checkInterval, orDefault_of_isZero_eq_false cooldown]

theorem Valid.normalize {c : TelegramConfig} (h : c.Valid) : c.normalize = c :=
  normalize_of_durations (Span.isZero_eq_false_of_le h.checkInterval.1)
    (Span.isZero_eq_false_of_le h.cooldown.1)

end TelegramConfig

namespace Submission

structure Acceptable (p : Submission) : Prop where
  checkInterval : 60000 ≤ p.checkInterval.toInt ∧ p.checkInterval.toInt ≤ 86400000
  cooldown : 60000 ≤ p.cooldown.toInt ∧ p.cooldown.toInt ≤ 86400000
  thresholds : ∀ m, 0 ≤ p.threshold m ∧ p.threshold m ≤ 100
  credentials : p.enabled = true →
    Text.trim p.botToken.toList ≠ [] ∧ Text.trim p.chatId.toList ≠ []

def settings (p : Submission) : TelegramConfig :=
  p.accepted (.ofMillis p.checkInterval.toInt.toNat) (.ofMillis p.cooldown.toInt.toNat)

variable {p : Submission}

theorem spanWithin_eq_some_iff {millis : Int} {low high : Nat} {d : Span} :
    spanWithin millis (.ofSeconds low) (.ofSeconds high) = some d ↔
      (low * 1000 ≤ millis ∧ millis ≤ high * 1000) ∧ d = .ofMillis millis.toNat := by
  simp only [spanWithin, Span.ofSeconds_le_ofMillis, Span.ofMillis_le_ofSeconds]
  constructor
  · intro h
    split at h
    · exact ⟨by omega, (Option.some.inj h).symm⟩
    · cases h
  · rintro ⟨h, rfl⟩
    rw [if_pos (by omega)]

theorem checkInterval_within_iff {millis : Int} {d : Span} :
    spanWithin millis minCheckInterval maxCheckInterval = some d ↔
      (60000 ≤ millis ∧ millis ≤ 86400000) ∧ d = .ofMillis millis.toNat :=
  spanWithin_eq_some_iff

theorem cooldown_within_iff {millis : Int} {d : Span} :
    spanWithin millis minCooldown maxCooldown = some d ↔
      (60000 ≤ millis ∧ millis ≤ 86400000) ∧ d = .ofMillis millis.toNat :=
  spanWithin_eq_some_iff

theorem isPercentage_iff {x : Float} : isPercentage x = true ↔ 0 ≤ x ∧ x ≤ 100 := by
  rw [isPercentage, Bool.and_eq_true, decide_eq_true_iff, decide_eq_true_iff]

theorem thresholds_iff : (Metric.all.find? fun m => !isPercentage (p.threshold m)) = none ↔
    ∀ m, 0 ≤ p.threshold m ∧ p.threshold m ≤ 100 := by
  simp only [List.find?_eq_none, Metric.mem_all, Bool.not_eq_true', forall_const,
    Bool.not_eq_false, isPercentage_iff]

theorem hasCredentials_accepted_iff {checkInterval cooldown : Span} :
    (p.accepted checkInterval cooldown).hasCredentials = true ↔
      Text.trim p.botToken.toList ≠ [] ∧ Text.trim p.chatId.toList ≠ [] := by
  simp only [TelegramConfig.hasCredentials, accepted, Bool.and_eq_true, Bool.not_eq_true',
    ← Bool.not_eq_true, Text.isEmpty_trimmed, ne_eq]

theorem threshold_settings (p : Submission) (m : Metric) :
    p.settings.threshold m = p.threshold m := by
  cases m <;> rfl

theorem Acceptable.valid (h : p.Acceptable) : p.settings.Valid where
  checkInterval := ⟨Span.ofSeconds_le_ofMillis.mpr (by have := h.checkInterval; omega),
    Span.ofMillis_le_ofSeconds.mpr (by have := h.checkInterval; omega)⟩
  cooldown := ⟨Span.ofSeconds_le_ofMillis.mpr (by have := h.cooldown; omega),
    Span.ofMillis_le_ofSeconds.mpr (by have := h.cooldown; omega)⟩
  wholeMillis := ⟨Span.isWhole_ofMillis _, Span.isWhole_ofMillis _⟩
  thresholds m := by
    rw [threshold_settings]
    exact h.thresholds m
  botToken := Text.trimmed_trimmed _
  chatId := Text.trimmed_trimmed _
  customMessage := Text.trimmed_trimmed _
  credentials on := hasCredentials_accepted_iff.mpr (h.credentials on)

theorem validate_of_acceptable (h : p.Acceptable) : p.validate = .ok p.settings := by
  have hinterval := checkInterval_within_iff.mpr ⟨h.checkInterval, rfl⟩
  have hcooldown := cooldown_within_iff.mpr ⟨h.cooldown, rfl⟩
  have hcredentials : (p.settings.enabled && !p.settings.hasCredentials) = false := by
    cases hon : p.settings.enabled with
    | false => rfl
    | true => rw [h.valid.credentials hon]; rfl
  simp only [validate, hinterval, hcooldown, thresholds_iff.mpr h.thresholds]
  rw [← settings, hcredentials, if_neg Bool.false_ne_true, h.valid.normalize]

theorem acceptable_of_validate {c : TelegramConfig} (h : p.validate = .ok c) : p.Acceptable := by
  unfold validate at h
  split at h
  · cases h
  · next checkInterval hinterval =>
    split at h
    · cases h
    · next cooldown hcooldown =>
      split at h
      · cases h
      · next hthresholds =>
        simp only at h
        split at h
        · cases h
        · next hcredentials =>
          refine ⟨(checkInterval_within_iff.mp hinterval).1, (cooldown_within_iff.mp hcooldown).1,
            thresholds_iff.mp hthresholds, fun on => ?_⟩
          rw [show (p.accepted checkInterval cooldown).enabled = true from on, Bool.true_and,
            Bool.not_eq_true', Bool.not_eq_false] at hcredentials
          exact hasCredentials_accepted_iff.mp hcredentials

/-- Exactly the acceptable submissions are accepted; their settings are stored. -/
theorem validate_eq_ok_iff {c : TelegramConfig} :
    p.validate = .ok c ↔ p.Acceptable ∧ c = p.settings := by
  constructor
  · intro h
    have acceptable := acceptable_of_validate h
    rw [validate_of_acceptable acceptable] at h
    exact ⟨acceptable, (Except.ok.inj h).symm⟩
  · rintro ⟨acceptable, rfl⟩
    exact validate_of_acceptable acceptable

theorem valid_of_validate {c : TelegramConfig} (h : p.validate = .ok c) : c.Valid := by
  obtain ⟨acceptable, rfl⟩ := validate_eq_ok_iff.mp h
  exact acceptable.valid

/-! ### A usual submission -/

/-- Notifications are switched on, with the usual thresholds and the shortest durations. -/
def usual (botToken customMessage : String) : Submission :=
  ⟨true, botToken, "7", 90, 90, 90, .ofInt 60000, .ofInt 60000, customMessage⟩

theorem validate_usual {botToken : String} (h : Text.trim botToken.toList ≠ [])
    (customMessage : String) :
    (usual botToken customMessage).validate = .ok (usual botToken customMessage).settings := by
  have hninety : (0 : Float) ≤ 90 ∧ (90 : Float) ≤ 100 := by decide +kernel
  have hminute : 60000 ≤ (Int64.ofInt 60000).toInt ∧ (Int64.ofInt 60000).toInt ≤ 86400000 := by
    decide
  have hchat : Text.trim "7".toList ≠ [] := by decide
  refine validate_of_acceptable ⟨hminute, hminute, fun m => ?_, fun _ => ⟨h, hchat⟩⟩
  cases m <;> exact hninety

/-! ### Stored settings sent back -/

/-- The submission that says what the settings say. -/
def ofConfig (c : TelegramConfig) : Submission :=
  ⟨c.enabled, c.botToken, c.chatId, c.cpuThreshold, c.memoryThreshold, c.diskThreshold,
    .ofInt c.checkInterval.millis, .ofInt c.cooldown.millis, c.customMessage⟩

theorem toInt_ofInt_of_within {d : Span} (h : Span.ofSeconds 60 ≤ d ∧ d ≤ Span.ofSeconds 86400)
    (whole : d.IsWhole) : (Int64.ofInt d.millis).toInt = d.millis ∧
      60000 ≤ (Int64.ofInt d.millis).toInt ∧ (Int64.ofInt d.millis).toInt ≤ 86400000 := by
  rw [← whole, Span.ofSeconds_le_ofMillis, Span.ofMillis_le_ofSeconds] at h
  rw [Int64.toInt_ofInt_of_le (by omega) (by omega)]
  omega

theorem validate_ofConfig {c : TelegramConfig} (h : c.Valid) : (ofConfig c).validate = .ok c := by
  obtain ⟨hinterval, interval⟩ := toInt_ofInt_of_within h.checkInterval h.wholeMillis.1
  obtain ⟨hcooldown, cooldown⟩ := toInt_ofInt_of_within h.cooldown h.wholeMillis.2
  have hsettings : (ofConfig c).settings = c := by
    simp only [settings, accepted, ofConfig, hinterval, hcooldown, Int.toNat_natCast,
      h.botToken, h.chatId, h.customMessage]
    rw [h.wholeMillis.1, h.wholeMillis.2]
  have acceptable : (ofConfig c).Acceptable := by
    refine ⟨interval, cooldown, fun m => ?_, fun on => ?_⟩
    · rw [← threshold_settings, hsettings]
      exact h.thresholds m
    · have hcredentials := h.credentials on
      rw [← hsettings] at hcredentials
      exact hasCredentials_accepted_iff.mp hcredentials
  rw [validate_of_acceptable acceptable, hsettings]

end Submission

end HostAlert
