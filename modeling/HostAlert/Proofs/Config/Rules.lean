import HostAlert.Proofs.Config.Validation

/-!
# The first broken rule

The rules for submitted settings have an order (`Submission.rules`), and `Submission.Keeps` says
what it is to keep one of them. Validation looks for the first rule that is broken
(`Submission.validate_eq_find`): it accepts a submission exactly when there is none, with the
settings as they were sent but for the blank characters at the ends of the texts, and it refuses any
other one with the first rule that it breaks (`Submission.accepted_or_refused`).
-/

namespace HostAlert.Submission

/-- The rules in their order, each under the refusal that names it. -/
def rules : List Refusal :=
  [.intervalOutOfRange, .cooldownOutOfRange, .thresholdOutOfRange .cpu,
    .thresholdOutOfRange .memory, .thresholdOutOfRange .disk, .missingCredentials]

theorem mem_rules (r : Refusal) : r ∈ rules := by
  rcases r with - | - | m | -
  case thresholdOutOfRange => cases m <;> decide
  all_goals decide

def Keeps (p : Submission) : Refusal → Prop
  | .intervalOutOfRange => 60000 ≤ p.checkInterval.toInt ∧ p.checkInterval.toInt ≤ 86400000
  | .cooldownOutOfRange => 60000 ≤ p.cooldown.toInt ∧ p.cooldown.toInt ≤ 86400000
  | .thresholdOutOfRange m => 0 ≤ p.threshold m ∧ p.threshold m ≤ 100
  | .missingCredentials =>
    p.enabled = true → Text.trimmed p.botToken ≠ "" ∧ Text.trimmed p.chatId ≠ ""

instance (p : Submission) : DecidablePred p.Keeps
  | .intervalOutOfRange => inferInstanceAs (Decidable (_ ∧ _))
  | .cooldownOutOfRange => inferInstanceAs (Decidable (_ ∧ _))
  | .thresholdOutOfRange _ => inferInstanceAs (Decidable (_ ∧ _))
  | .missingCredentials => inferInstanceAs (Decidable (_ → _))

/-- The rule is broken, and no rule before it is. -/
def BreaksFirst (p : Submission) (r : Refusal) : Prop :=
  ∃ before after, rules = before ++ r :: after ∧ (∀ q ∈ before, p.Keeps q) ∧ ¬ p.Keeps r

variable {p : Submission}

/-! ### Single rules -/

theorem spanWithin_eq_none_iff {millis : Int} {low high : Nat} :
    spanWithin millis (.ofSeconds low) (.ofSeconds high) = none ↔
      ¬ (low * 1000 ≤ millis ∧ millis ≤ high * 1000) := by
  cases h : spanWithin millis (.ofSeconds low) (.ofSeconds high) with
  | none =>
    refine iff_of_true rfl fun hrange => ?_
    rw [spanWithin_eq_some_iff.mpr ⟨hrange, rfl⟩] at h
    cases h
  | some d => exact iff_of_false nofun fun hout => hout (spanWithin_eq_some_iff.mp h).1

theorem trimmed_ne_empty_iff {s : String} : Text.trimmed s ≠ "" ↔ Text.trim s.toList ≠ [] := by
  rw [ne_eq, ← String.isEmpty_iff, Text.isEmpty_trimmed]

/-- A submission is acceptable when it keeps every rule. -/
theorem acceptable_iff : p.Acceptable ↔ ∀ r ∈ rules, p.Keeps r := by
  constructor
  · intro h r _
    cases r with
    | intervalOutOfRange => exact h.checkInterval
    | cooldownOutOfRange => exact h.cooldown
    | thresholdOutOfRange m => exact h.thresholds m
    | missingCredentials =>
      intro on
      rw [trimmed_ne_empty_iff, trimmed_ne_empty_iff]
      exact h.credentials on
  · intro h
    refine ⟨h _ (mem_rules .intervalOutOfRange), h _ (mem_rules .cooldownOutOfRange),
      fun m => h _ (mem_rules (.thresholdOutOfRange m)), fun on => ?_⟩
    have hnamed := h _ (mem_rules .missingCredentials) on
    rwa [trimmed_ne_empty_iff, trimmed_ne_empty_iff] at hnamed

theorem find_threshold : (Metric.all.map Refusal.thresholdOutOfRange).find?
      (fun r => !decide (p.Keeps r)) =
    (Metric.all.find? fun m => !isPercentage (p.threshold m)).map .thresholdOutOfRange := by
  rw [List.find?_map]
  congr 2
  funext m
  rw [Function.comp_apply, Bool.eq_iff_iff, Bool.not_eq_true', Bool.not_eq_true',
    decide_eq_false_iff_not, ← Bool.not_eq_true, isPercentage_iff]
  exact Iff.rfl

/-! ### All rules -/

theorem find_kept {r : Refusal} (h : p.Keeps r) (rs : List Refusal) :
    (r :: rs).find? (fun r => !decide (p.Keeps r)) = rs.find? fun r => !decide (p.Keeps r) :=
  List.find?_cons_of_neg (by rw [decide_eq_true h]; exact Bool.false_ne_true)

theorem find_broken {r : Refusal} (h : ¬ p.Keeps r) (rs : List Refusal) :
    (r :: rs).find? (fun r => !decide (p.Keeps r)) = some r :=
  List.find?_cons_of_pos (by rw [decide_eq_false h]; rfl)

/-- Validation looks for the first rule that is broken. -/
theorem validate_eq_find : p.validate =
    match rules.find? fun r => !decide (p.Keeps r) with
    | some r => .error r
    | none => .ok p.settings := by
  -- both sides stop at the first rule that is broken, so the cases follow the order of the rules
  by_cases hinterval : p.Keeps .intervalOutOfRange
  case neg =>
    have hnone : spanWithin p.checkInterval.toInt minCheckInterval maxCheckInterval = none :=
      spanWithin_eq_none_iff.mpr hinterval
    rw [rules, find_broken hinterval, validate, hnone]
  have hsome := checkInterval_within_iff.mpr ⟨hinterval, rfl⟩
  by_cases hcooldown : p.Keeps .cooldownOutOfRange
  case neg =>
    have hnone : spanWithin p.cooldown.toInt minCooldown maxCooldown = none :=
      spanWithin_eq_none_iff.mpr hcooldown
    rw [rules, find_kept hinterval, find_broken hcooldown, validate, hsome]
    simp only [hnone]
  have hsome' := cooldown_within_iff.mpr ⟨hcooldown, rfl⟩
  have hthree : rules = .intervalOutOfRange :: .cooldownOutOfRange ::
      (Metric.all.map Refusal.thresholdOutOfRange ++ [.missingCredentials]) := rfl
  rw [hthree, find_kept hinterval, find_kept hcooldown, List.find?_append, find_threshold]
  cases hthreshold : Metric.all.find? fun m => !isPercentage (p.threshold m) with
  | some m =>
    rw [validate, hsome]
    simp only [hsome', hthreshold]
    rfl
  | none =>
    by_cases hnamed : p.Keeps .missingCredentials
    · rw [Option.map_none, Option.none_or, find_kept hnamed]
      refine validate_of_acceptable ⟨hinterval, hcooldown, thresholds_iff.mp hthreshold, fun on => ?_⟩
      rw [← trimmed_ne_empty_iff, ← trimmed_ne_empty_iff]
      exact hnamed on
    · have hmissing : (p.settings.enabled && !p.settings.hasCredentials) = true := by
        rw [Keeps, Classical.not_imp, trimmed_ne_empty_iff, trimmed_ne_empty_iff,
          ← hasCredentials_accepted_iff, Bool.not_eq_true, ← Bool.not_eq_true'] at hnamed
        exact Bool.and_eq_true_iff.mpr hnamed
      rw [Option.map_none, Option.none_or, find_broken hnamed, validate, hsome]
      simp only [hsome', hthreshold]
      exact if_pos hmissing

/-- A submission is refused with the first rule that it breaks. -/
theorem validate_eq_error_iff {r : Refusal} : p.validate = .error r ↔ p.BreaksFirst r := by
  have hfound : rules.find? (fun q => !decide (p.Keeps q)) = some r ↔ p.BreaksFirst r := by
    simp only [List.find?_eq_some_iff_append, Bool.not_eq_true', decide_eq_false_iff_not,
      Bool.not_not, decide_eq_true_iff, BreaksFirst]
    constructor
    · rintro ⟨hbroken, before, after, heq, hkept⟩
      exact ⟨before, after, heq, hkept, hbroken⟩
    · rintro ⟨before, after, heq, hkept, hbroken⟩
      exact ⟨hbroken, before, after, heq, hkept⟩
  rw [validate_eq_find, ← hfound]
  cases rules.find? fun q => !decide (p.Keeps q) with
  | none => exact iff_of_false nofun nofun
  | some q => rw [Except.error.injEq, Option.some.injEq]

/-- The settings say what the submission says, with trimmed texts. -/
structure Stores (p : Submission) (c : TelegramConfig) : Prop where
  enabled : c.enabled = p.enabled
  botToken : c.botToken = Text.trimmed p.botToken
  chatId : c.chatId = Text.trimmed p.chatId
  customMessage : c.customMessage = Text.trimmed p.customMessage
  thresholds : ∀ m, c.threshold m = p.threshold m
  checkInterval : (c.checkInterval.nanos : Int) = p.checkInterval.toInt * 1000000
  cooldown : (c.cooldown.nanos : Int) = p.cooldown.toInt * 1000000

theorem Acceptable.stores_iff (h : p.Acceptable) {c : TelegramConfig} :
    p.Stores c ↔ c = p.settings := by
  have hinterval := h.checkInterval
  have hcooldown := h.cooldown
  constructor
  · intro hs
    have hthreshold := hs.thresholds
    obtain ⟨enabled, botToken, chatId, cpu, memory, disk, ⟨interval⟩, ⟨cooldown⟩, message⟩ := c
    obtain ⟨rfl, rfl, rfl, rfl, -, hi, hc⟩ := hs
    obtain rfl : cpu = p.cpuThreshold := hthreshold .cpu
    obtain rfl : memory = p.memoryThreshold := hthreshold .memory
    obtain rfl : disk = p.diskThreshold := hthreshold .disk
    simp only [settings, accepted, Span.ofMillis, TelegramConfig.mk.injEq, Span.mk.injEq, true_and,
      and_true] at hi hc ⊢
    omega
  · rintro rfl
    refine ⟨rfl, rfl, rfl, rfl, threshold_settings p, ?_, ?_⟩
    · simp only [settings, accepted, Span.ofMillis]
      omega
    · simp only [settings, accepted, Span.ofMillis]
      omega

/-- A submission that keeps every rule is accepted, and nothing else is; what is stored is what was
sent with trimmed texts, and normalization leaves it alone. Any other submission is refused with the
first rule that it breaks. -/
theorem accepted_or_refused (p : Submission) :
    (∀ c, p.validate = .ok c ↔ (∀ r ∈ rules, p.Keeps r) ∧ p.Stores c) ∧
    (∀ c, p.validate = .ok c → c.normalize = c) ∧
    (∀ r, p.validate = .error r ↔ p.BreaksFirst r) ∧
    ((∃ c, p.validate = .ok c) ∨ ∃ r, p.BreaksFirst r) := by
  refine ⟨fun c => ?_, fun c h => (valid_of_validate h).normalize, fun r => validate_eq_error_iff,
    ?_⟩
  · rw [validate_eq_ok_iff, ← acceptable_iff]
    exact and_congr_right fun h => h.stores_iff.symm
  · cases h : p.validate with
    | ok c => exact .inl ⟨c, rfl⟩
    | error r => exact .inr ⟨r, validate_eq_error_iff.mp h⟩

/-- No number is out of range, and a negative zero is in it. -/
example : ¬ Keeps { empty with cpuThreshold := 0 / 0 } (.thresholdOutOfRange .cpu) ∧
    Keeps { empty with cpuThreshold := -0.0 } (.thresholdOutOfRange .cpu) := by
  decide +kernel

end HostAlert.Submission
