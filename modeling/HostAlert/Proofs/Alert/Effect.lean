import HostAlert.Proofs.Alert.Cooling

/-!
# The effect of an evaluation

An evaluation ends the alert of its metric, keeps it as it is or begins one; `Effect` puts these in
order. The effect never sinks when the reading rises (`effect_le_of_reading`) or when the last alert
is longer ago (`effect_le_of_since`). No reading both begins an alert and ends one
(`clears_eq_false_of_starts`), and a reading that is no number does neither (`effect_of_isNaN`). All
of it holds for doubles of every kind (`effects_ordered`).
-/

namespace HostAlert.Evaluation

/-- What an evaluation does to the alert of its metric. -/
inductive Effect
  /-- Its active flag is dropped. -/
  | clear
  /-- It stays as it is. -/
  | keep
  /-- It is sent. -/
  | alert
  deriving DecidableEq

namespace Effect

def rank : Effect → Nat
  | clear => 0
  | keep => 1
  | alert => 2

instance : LE Effect := ⟨fun e f => e.rank ≤ f.rank⟩

instance (e f : Effect) : Decidable (e ≤ f) := inferInstanceAs (Decidable (e.rank ≤ f.rank))

/-- An effect is at most another if that clears only where it does and alerts wherever it does. -/
theorem le_iff {e f : Effect} : e ≤ f ↔ (f = clear → e = clear) ∧ (e = alert → f = alert) := by
  cases e <;> cases f <;> decide

end Effect

/-- The effect of an evaluation: a check clears first, alerts for the start of an alert only, and
otherwise goes on to the next metric. -/
def effect (e : Evaluation) : Effect :=
  if e.clears then .clear else if e = .startsToExceed then .alert else .keep

theorem effect_eq_clear_iff {e : Evaluation} : e.effect = .clear ↔ e.clears = true := by
  cases e <;> decide

theorem effect_eq_alert_iff {e : Evaluation} : e.effect = .alert ↔ e = .startsToExceed := by
  cases e <;> decide

theorem effect_eq_keep_iff {e : Evaluation} :
    e.effect = .keep ↔ e.clears = false ∧ e ≠ .startsToExceed := by
  cases e <;> decide

theorem effect_le_iff {e f : Evaluation} : e.effect ≤ f.effect ↔
    (f.clears = true → e.clears = true) ∧ (e = .startsToExceed → f = .startsToExceed) := by
  rw [Effect.le_iff, effect_eq_clear_iff, effect_eq_clear_iff, effect_eq_alert_iff,
    effect_eq_alert_iff]

variable {value threshold : Float} {active : Bool} {since later : Option Span}
  {cooldown : Span}

/-! ### Higher readings -/

theorem effect_le_of_reading {higher : Float} (h : value ≤ higher) :
    (evaluate value threshold active since cooldown).effect ≤
      (evaluate higher threshold active since cooldown).effect := by
  rw [effect_le_iff, clears_iff, clears_iff, startsToExceed_iff, startsToExceed_iff]
  constructor
  · rintro (hoff | hoff | ⟨hactive, hbelow, hlow⟩)
    · exact .inl hoff
    · exact .inr (.inl (Decimal.le_trans h hoff))
    · have hbelow' : ¬ threshold ≤ value := fun hle => hbelow (Decimal.le_trans hle h)
      exact .inr (.inr ⟨hactive, hbelow', Decimal.lt_of_le_of_lt h hlow⟩)
  · rintro ⟨hthreshold, hvalue, hreached, hinactive, hcooled⟩
    have hhigher : ¬ higher ≤ 0 := fun hle => hvalue (Decimal.le_trans h hle)
    exact ⟨hthreshold, hhigher, Decimal.le_trans hreached h, hinactive, hcooled⟩

/-! ### Longer times -/

/-- The first time is no longer than the second; none, for a metric that was never alerted, is the
longest. -/
def NoLonger (since later : Option Span) : Prop :=
  ∀ elapsed ∈ later, ∃ earlier ∈ since, earlier ≤ elapsed

theorem cooledDown_of_noLonger (h : NoLonger since later)
    (cooled : cooledDown since cooldown = true) : cooledDown later cooldown = true := by
  rw [cooledDown_iff] at cooled ⊢
  intro elapsed helapsed
  obtain ⟨earlier, hearlier, hle⟩ := h elapsed helapsed
  exact Nat.le_trans (cooled earlier hearlier) hle

/-- The time since the last alert decides nothing but whether an alert may begin. -/
theorem effect_le_of_since (h : NoLonger since later) :
    (evaluate value threshold active since cooldown).effect ≤
      (evaluate value threshold active later cooldown).effect := by
  rw [effect_le_iff, clears_iff, clears_iff, startsToExceed_iff, startsToExceed_iff]
  refine ⟨id, ?_⟩
  rintro ⟨hthreshold, hvalue, hreached, hinactive, hcooled⟩
  exact ⟨hthreshold, hvalue, hreached, hinactive, cooledDown_of_noLonger h hcooled⟩

/-! ### Hysteresis -/

theorem clears_eq_false_of_starts
    (h : evaluate value threshold false since cooldown = .startsToExceed) (active : Bool)
    (later : Option Span) (cooldown' : Span) :
    (evaluate value threshold active later cooldown').clears = false := by
  obtain ⟨hthreshold, hvalue, hreached, -, -⟩ := startsToExceed_iff.mp h
  rw [Bool.eq_false_iff, ne_eq, clears_iff]
  rintro (hoff | hoff | ⟨-, hbelow, -⟩)
  · exact hthreshold hoff
  · exact hvalue hoff
  · exact hbelow hreached

/-- A reading that is no number changes nothing unless the metric is disabled. -/
theorem effect_of_isNaN (watched : 0 < threshold ∨ threshold.isNaN = true)
    (h : value.isNaN = true) :
    (evaluate value threshold active since cooldown).effect = .keep := by
  have hthreshold : ¬ threshold ≤ 0 := by
    obtain hpositive | hnan := watched
    · exact Decimal.not_le_of_lt hpositive
    · exact Decimal.not_le_of_isNaN (.inl hnan)
  rw [effect_eq_keep_iff, Bool.eq_false_iff, ne_eq, clears_iff, ne_eq, startsToExceed_iff]
  constructor
  · rintro (hoff | hoff | ⟨-, -, hlow⟩)
    · exact hthreshold hoff
    · exact Decimal.not_le_of_isNaN (.inl h) hoff
    · exact Decimal.not_lt_of_isNaN (.inl h) hlow
  · rintro ⟨-, -, hreached, -, -⟩
    exact Decimal.not_le_of_isNaN (.inr h) hreached

/-- The effect of an evaluation never sinks when the reading rises, positive or not, or when the
last alert is longer ago. A reading that alerts an inactive metric clears no active one, one that
clears an active metric through the reset level alerts no inactive one, and while the threshold is
positive or no number, a reading that is no number does neither. -/
theorem effects_ordered (threshold : Float) :
    (∀ value higher active since cooldown, value ≤ higher →
      (evaluate value threshold active since cooldown).effect ≤
        (evaluate higher threshold active since cooldown).effect) ∧
    (∀ value active since later cooldown, NoLonger since later →
      (evaluate value threshold active since cooldown).effect ≤
        (evaluate value threshold active later cooldown).effect) ∧
    (∀ value since later cooldown cooldown',
      (evaluate value threshold false since cooldown).effect = .alert →
        (evaluate value threshold true later cooldown').effect ≠ .clear) ∧
    (∀ value since later cooldown cooldown',
      evaluate value threshold true since cooldown = .backToOk →
        (evaluate value threshold false later cooldown').effect ≠ .alert) ∧
    (0 < threshold ∨ threshold.isNaN = true → ∀ value active since cooldown,
      value.isNaN = true → (evaluate value threshold active since cooldown).effect = .keep) := by
  refine ⟨fun _ _ _ _ _ => effect_le_of_reading, fun _ _ _ _ _ => effect_le_of_since,
    fun value since later cooldown cooldown' h => ?_,
    fun value since later cooldown cooldown' h halert => ?_,
    fun watched _ _ _ _ => effect_of_isNaN watched⟩
  · rw [ne_eq, effect_eq_clear_iff, Bool.not_eq_true]
    exact clears_eq_false_of_starts (effect_eq_alert_iff.mp h) true later cooldown'
  · have hkept := clears_eq_false_of_starts (effect_eq_alert_iff.mp halert) true since cooldown
    rw [h] at hkept
    cases hkept

namespace Sample

/-- Around a threshold of 90 % with a minute's cooldown: the reset level, the end of the cooldown, a
breach, a recovery and a reading that is no number. -/
theorem ordered_around_ninety :
    let judged (value : Float) (active : Bool) (since : Option Span) : Evaluation :=
      evaluate value 90 active since (.ofSeconds 60)
    let soon : Option Span := some (.ofSeconds 59)
    ((80.9 : Float) ≤ 81 ∧
      (judged 80.9 true none).effect ≤ (judged 81 true none).effect) ∧
    (NoLonger soon none ∧ (judged 95 false soon).effect ≤ (judged 95 false none).effect) ∧
    ((judged 95 false none).effect = .alert ∧ (judged 95 true soon).effect ≠ .clear) ∧
    (judged 80.9 true none = .backToOk ∧ (judged 80.9 false none).effect ≠ .alert) ∧
    ((0 : Float) < 90 ∧ (0 / 0 : Float).isNaN = true ∧
      (judged (0 / 0) true soon).effect = .keep) := by
  intro judged soon
  obtain ⟨rising, passing, breaching, recovering, unread⟩ := effects_ordered 90
  have hrise : (80.9 : Float) ≤ 81 := by decide +kernel
  have hpass : NoLonger soon none := nofun
  have hbreach : (judged 95 false none).effect = .alert := by decide +kernel
  have hrecover : judged 80.9 true none = .backToOk := by decide +kernel
  have hpositive : (0 : Float) < 90 := by decide +kernel
  have hnan : (0 / 0 : Float).isNaN = true := by decide +kernel
  exact ⟨⟨hrise, rising _ _ _ _ _ hrise⟩, ⟨hpass, passing _ _ _ _ _ hpass⟩,
    ⟨hbreach, breaching _ _ _ _ _ hbreach⟩, ⟨hrecover, recovering _ _ _ _ _ hrecover⟩,
    hpositive, hnan, unread (.inl hpositive) _ _ _ _ hnan⟩

end Sample

end HostAlert.Evaluation
