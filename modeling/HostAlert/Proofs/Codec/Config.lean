import HostAlert.Codec.Config
import HostAlert.Proofs.Config.Validation
import HostAlert.Proofs.Json.Rereading

/-!
# Settings sent back

The document of stored settings is read as the submission that says what they say
(`Submission.rereads_toValue`), although it writes durations as unsigned numbers and a submission
has signed ones. The durations of valid settings are in both ranges (`Submission.rereads_of_valid`).
-/

namespace HostAlert

open Json

theorem rereads_duration {d : Span} (h : d.millis < 0x8000000000000000) :
    Rereads int64 (TelegramConfig.durationValue d) (.ofInt d.millis) := by
  have hmin : min (d.millis : Int) TelegramConfig.maxMillis = d.millis := by
    simp only [TelegramConfig.maxMillis, UInt64.size]
    omega
  rw [TelegramConfig.durationValue, hmin]
  exact rereads_int64 (by omega) (by omega)

namespace Submission

variable {c : TelegramConfig}

theorem rereads_toValue (thresholds : ∀ m, ReadsBack (c.threshold m))
    (checkInterval : c.checkInterval.millis < 0x8000000000000000)
    (cooldown : c.cooldown.millis < 0x8000000000000000) :
    Rereads read c.toValue (ofConfig c) :=
  rereads_record
    (.written rfl rfl (rereads_bool c.enabled) <|
      .written rfl rfl (rereads_text c.botToken) <|
      .written rfl rfl (rereads_text c.chatId) <|
      .written rfl rfl (rereads_double (thresholds .cpu)) <|
      .written rfl rfl (rereads_double (thresholds .memory)) <|
      .written rfl rfl (rereads_double (thresholds .disk)) <|
      .written rfl rfl (rereads_duration checkInterval) <|
      .written rfl rfl (rereads_duration cooldown) <|
      .written rfl rfl (rereads_text c.customMessage) .nil) rfl

theorem millis_lt {d : Span} (h : d ≤ maxCheckInterval) : d.millis < 0x8000000000000000 := by
  have hnanos : d.nanos ≤ 86400 * 1000000000 := h
  rw [Span.millis]
  omega

theorem rereads_of_valid (valid : c.Valid) (thresholds : ∀ m, ReadsBack (c.threshold m)) :
    Rereads read c.toValue (ofConfig c) :=
  rereads_toValue thresholds (millis_lt valid.checkInterval.2) (millis_lt valid.cooldown.2)

end Submission

end HostAlert
