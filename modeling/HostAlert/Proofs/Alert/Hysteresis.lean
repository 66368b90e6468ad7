import HostAlert.Alert.Evaluation
import HostAlert.Proofs.Decimal.Order

/-!
# What an evaluation tells

An alert starts only while none is active and the cooldown is over (`startsToExceed_iff`). The
active flag is dropped when the metric is disabled or falls below the reset level (`clears_iff`), so
only then (`lowered_of_clears`); `Lowered` is that condition, and a positive reading at or above the
reset level of a positive threshold does not meet it (`not_lowered`).
-/

namespace HostAlert.Evaluation

/-- The metric is not watched, could not be read, or has fallen below the reset level. -/
def Lowered (value threshold : Float) : Prop :=
  threshold ≤ 0 ∨ value ≤ 0 ∨ value < threshold * resetFactor

instance (value threshold : Float) : Decidable (Lowered value threshold) :=
  inferInstanceAs (Decidable (threshold ≤ 0 ∨ value ≤ 0 ∨ value < threshold * resetFactor))

/-- When an alert starts. -/
theorem startsToExceed_iff {value threshold : Float} {active : Bool} {since : Option Span}
    {cooldown : Span} :
    evaluate value threshold active since cooldown = startsToExceed ↔
      ¬ threshold ≤ 0 ∧ ¬ value ≤ 0 ∧ threshold ≤ value ∧ active = false ∧
        cooledDown since cooldown = true := by
  unfold evaluate
  by_cases hoff : threshold ≤ 0 ∨ value ≤ 0
  · rw [if_pos (by simpa using hoff)]
    simp only [reduceCtorEq, false_iff]
    rintro ⟨ht, hv, -⟩
    exact hoff.elim ht hv
  · rw [if_neg (by simpa using hoff)]
    rw [not_or] at hoff
    by_cases hle : threshold ≤ value
    · rw [if_pos hle]
      by_cases hgo : (!active && cooledDown since cooldown) = true
      · rw [if_pos hgo]
        simp_all
      · rw [if_neg hgo]
        simp_all
    · rw [if_neg hle]
      split
      · simp [hle]
      · split <;> simp [hle]

/-- When the active flag is dropped. -/
theorem clears_iff {value threshold : Float} {active : Bool} {since : Option Span}
    {cooldown : Span} :
    (evaluate value threshold active since cooldown).clears = true ↔
      threshold ≤ 0 ∨ value ≤ 0 ∨
        active = true ∧ ¬ threshold ≤ value ∧ value < threshold * resetFactor := by
  fun_cases evaluate value threshold active since cooldown with
  | case1 off =>
    rw [Bool.or_eq_true, decide_eq_true_eq, decide_eq_true_eq] at off
    exact iff_of_true rfl (off.imp_right .inl)
  -- the threshold is reached
  | case2 | case3 => simp_all [clears]
  -- the reading is below it
  | case4 | case5 | case6 => simp_all [clears]

/-- The active flag is dropped only for a lowered reading. -/
theorem lowered_of_clears {value threshold : Float} {active : Bool} {since : Option Span}
    {cooldown : Span} (h : (evaluate value threshold active since cooldown).clears = true) :
    Lowered value threshold := by
  obtain hthreshold | hvalue | ⟨-, -, hlow⟩ := clears_iff.mp h
  · exact .inl hthreshold
  · exact .inr (.inl hvalue)
  · exact .inr (.inr hlow)

theorem not_lowered {value threshold : Float} (ht : 0 < threshold) (hv : 0 < value)
    (hr : threshold * resetFactor ≤ value) : ¬ Lowered value threshold := by
  rintro (h | h | h)
  · exact Decimal.not_le_of_lt ht h
  · exact Decimal.not_le_of_lt hv h
  · exact Decimal.not_lt_of_le hr h

theorem clears_eq_false_of_le {value threshold : Float} {active : Bool} {since : Option Span}
    {cooldown : Span} (ht : 0 < threshold) (hv : threshold ≤ value) :
    (evaluate value threshold active since cooldown).clears = false := by
  rw [Bool.eq_false_iff, ne_eq, clears_iff]
  rintro (h | h | ⟨-, hbelow, -⟩)
  · exact Decimal.not_le_of_lt ht h
  · exact Decimal.not_le_of_lt (Decimal.lt_of_lt_of_le ht hv) h
  · exact hbelow hv

end HostAlert.Evaluation
