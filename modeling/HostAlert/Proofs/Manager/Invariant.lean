import HostAlert.Proofs.Manager.Schedule
import Mathlib.Logic.Relation

/-!
# The invariant of the shared state

`Shared.Sound` holds of a new manager and is kept by each of the three operations, so it holds at
every moment of every interleaving (`System.sound_of_reach`). A delivery that is recorded after
notifications were switched off marks nothing, which is what keeps an alert from outliving them.
No operation takes back the time of a delivery.
-/

namespace HostAlert.Manager

namespace Shared

/-- What is true of the shared state at every moment. -/
structure Sound (s : Shared) : Prop where
  /-- While notifications are off, no alert is active. -/
  silent : s.config.enabled = false → ∀ m, (s.alerts.get m).active = false
  /-- An active alert was delivered at some time. -/
  dated : ∀ m, (s.alerts.get m).active = true → (s.alerts.get m).lastAlert.isSome = true
  checkInterval : s.config.checkInterval.isZero = false
  cooldown : s.config.cooldown.isZero = false

theorem sound_initial (config : TelegramConfig) : (initial config).Sound where
  silent _ m := by rw [initial, AlertStates.get_initial]; rfl
  dated m h := by
    rw [initial, AlertStates.get_initial] at h
    cases h
  checkInterval := config.normalize_durations.1
  cooldown := config.normalize_durations.2

namespace Sound

variable {s : Shared}

theorem replaceConfig (h : s.Sound) (config : TelegramConfig) : (s.replaceConfig config).Sound where
  silent hoff m := by
    have hoff' : config.enabled = false := hoff
    rw [Shared.replaceConfig, hoff', if_neg Bool.false_ne_true, AlertStates.get_clearAll]
  dated m hm := by
    cases hon : config.enabled with
    | true =>
      rw [Shared.replaceConfig, hon, if_pos rfl] at hm ⊢
      exact h.dated m hm
    | false =>
      rw [Shared.replaceConfig, hon, if_neg Bool.false_ne_true, AlertStates.get_clearAll] at hm
      cases hm
  checkInterval := config.normalize_durations.1
  cooldown := config.normalize_durations.2

theorem clearAlert (h : s.Sound) (m : Metric) : (s.clearAlert m).Sound where
  silent hoff n := by
    rw [Shared.clearAlert, AlertStates.get_clear]
    split
    · rfl
    · exact h.silent hoff n
  dated n hn := by
    rw [Shared.clearAlert, AlertStates.get_clear] at hn ⊢
    split at hn
    · cases hn
    · next hmn =>
      rw [if_neg hmn]
      exact h.dated n hn
  checkInterval := h.checkInterval
  cooldown := h.cooldown

theorem recordDelivery (h : s.Sound) (m : Metric) (time : Instant) :
    (s.recordDelivery m time).Sound := by
  cases hon : s.config.enabled with
  | false =>
    -- switched off while the alert was on its way
    rw [Shared.recordDelivery, hon, if_neg Bool.false_ne_true]
    exact h
  | true =>
    rw [Shared.recordDelivery, hon, if_pos rfl]
    refine ⟨fun hoff => ?_, fun n hn => ?_, h.checkInterval, h.cooldown⟩
    · rw [show s.config.enabled = false from hoff] at hon
      cases hon
    · rw [AlertStates.get_markActive] at hn ⊢
      split at hn
      · next hmn =>
        rw [if_pos hmn]
        rfl
      · next hmn =>
        rw [if_neg hmn]
        exact h.dated n hn

end Sound

/-! ### Times of deliveries -/

/-- Each metric that has the time of a delivery in the first state has one in the second. -/
def Keeps (s s' : Shared) : Prop :=
  ∀ m, (s.alerts.get m).lastAlert.isSome = true → (s'.alerts.get m).lastAlert.isSome = true

theorem lastAlert_replaceConfig (s : Shared) (config : TelegramConfig) (m : Metric) :
    ((s.replaceConfig config).alerts.get m).lastAlert = (s.alerts.get m).lastAlert := by
  cases hon : config.enabled with
  | true => rw [replaceConfig, hon, if_pos rfl]
  | false => rw [replaceConfig, hon, if_neg Bool.false_ne_true, AlertStates.get_clearAll]

theorem lastAlert_clearAlert (s : Shared) (m n : Metric) :
    ((s.clearAlert m).alerts.get n).lastAlert = (s.alerts.get n).lastAlert := by
  rw [clearAlert, AlertStates.get_clear]
  split <;> rfl

theorem lastAlert_recordDelivery (s : Shared) (m n : Metric) (time : Instant) :
    ((s.recordDelivery m time).alerts.get n).lastAlert =
      if m = n ∧ s.config.enabled = true then some time else (s.alerts.get n).lastAlert := by
  cases hon : s.config.enabled with
  | false =>
    rw [recordDelivery, hon, if_neg Bool.false_ne_true, if_neg fun h => Bool.false_ne_true h.2]
  | true =>
    rw [recordDelivery, hon, if_pos rfl, AlertStates.get_markActive]
    by_cases hmn : m = n
    · rw [if_pos hmn, if_pos ⟨hmn, rfl⟩]
    · rw [if_neg hmn, if_neg fun h => hmn h.1]

end Shared

namespace Task

variable {base : String} {s s' : Shared} {t t' : Task} {e : Event}

theorem Moved.sound (h : Moved base s t e s' t') (hs : s.Sound) : s'.Sound := by
  obtain rfl | ⟨config, -, rfl⟩ | ⟨work, m, rest, -, rfl⟩ | ⟨work, m, rest, time, -, rfl⟩ :=
    h.shared_cases
  · exact hs
  · exact hs.replaceConfig config
  · exact hs.clearAlert m
  · exact hs.recordDelivery m time

theorem Moved.keeps (h : Moved base s t e s' t') : s.Keeps s' := by
  intro n hn
  obtain rfl | ⟨config, -, rfl⟩ | ⟨work, m, rest, -, rfl⟩ | ⟨work, m, rest, time, -, rfl⟩ :=
    h.shared_cases
  · exact hn
  · rw [Shared.lastAlert_replaceConfig]
    exact hn
  · rw [Shared.lastAlert_clearAlert]
    exact hn
  · rw [Shared.lastAlert_recordDelivery]
    split
    · rfl
    · exact hn

end Task

namespace System

variable {base : String} {s s' : System}

theorem Move.sound (h : Move base s s') (hs : s.shared.Sound) : s'.shared.Sound := by
  cases h with
  | begins => exact hs
  | steps i t t' e shared here moved => exact (Task.moved_of_step moved).sound hs

theorem Move.keeps (h : Move base s s') : s.shared.Keeps s'.shared := by
  cases h with
  | begins => exact fun _ hm => hm
  | steps i t t' e shared here moved => exact (Task.moved_of_step moved).keeps

/-- At every moment of every interleaving the shared state is sound, and from then on no metric
loses the time of its last delivery. -/
theorem sound_of_reach {config : TelegramConfig} (h : Reach base config s) :
    s.shared.Sound ∧ ∀ s', Relation.ReflTransGen (Move base) s s' → s.shared.Keeps s'.shared := by
  constructor
  · induction h with
    | initial => exact Shared.sound_initial config
    | move _ hmove ih => exact hmove.sound ih
  · intro s' hs'
    induction hs' with
    | refl => exact fun _ hm => hm
    | tail _ hmove ih => exact fun m hm => hmove.keeps m (ih m hm)

end System

/-- After an alert is recorded and notifications are switched off, its time is still there and it
is active no more. -/
theorem Sample.sound_silent : ∃ s s' : System, System.Reach base settings s ∧
    (s.shared.alerts.get .cpu).active = true ∧ s'.shared.config.enabled = false ∧
    s'.shared.Sound ∧ s.shared.Keeps s'.shared := by
  obtain ⟨call, run⟩ := run_finished
  have off := run.updates silent time time (Nat.zero_le 1) (Nat.zero_le 1)
  have begins : System.Move base ⟨recorded, [.check .finished]⟩
      ⟨recorded, [.check .finished, .update silent]⟩ := .begins _ (.update silent) rfl
  have steps : System.Move base ⟨recorded, [.check .finished, .update silent]⟩
      ⟨recorded.replaceConfig silent, [.check .finished, .updated]⟩ :=
    .steps _ 1 _ _ (.enter time time) _ rfl rfl
  exact ⟨_, _, run.reach, rfl, rfl, (System.sound_of_reach off.reach).1,
    (System.sound_of_reach run.reach).2 _ (.tail (.single begins) steps)⟩

end HostAlert.Manager
