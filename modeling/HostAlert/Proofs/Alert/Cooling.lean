import HostAlert.Alert.State
import HostAlert.Proofs.Alert.Hysteresis
import HostAlert.Proofs.Time.Packed

/-!
# The cooldown to the nanosecond

A reading at or above a positive threshold alerts an inactive metric exactly when the cooldown is
over (`startsToExceed_iff_cooledDown`). The time since the last alert never overflows and the
cooldown is compared with it to the nanosecond, whether the clock goes on or is set back; once an
alert is allowed, it stays allowed (`AlertState.starts_iff_cooled`).
-/

namespace HostAlert

namespace Evaluation

variable {value threshold : Float} {since : Option Span} {cooldown : Span}

theorem cooledDown_iff :
    cooledDown since cooldown = true ↔ ∀ elapsed ∈ since, cooldown ≤ elapsed := by
  cases since with
  | none => simp [cooledDown]
  | some elapsed => simp [cooledDown]

theorem startsToExceed_iff_cooledDown (positive : 0 < threshold) (reached : threshold ≤ value) :
    evaluate value threshold false since cooldown = startsToExceed ↔
      cooledDown since cooldown = true := by
  rw [startsToExceed_iff]
  constructor
  · rintro ⟨-, -, -, -, h⟩
    exact h
  · intro h
    have hvalue : 0 < value := Decimal.lt_of_lt_of_le positive reached
    exact ⟨Decimal.not_le_of_lt positive, Decimal.not_le_of_lt hvalue, reached, rfl, h⟩

end Evaluation

open Evaluation

/-- An inactive metric whose reading has reached a positive threshold is alerted exactly when it
never was, when the last alert is at least a cooldown ago, to the nanosecond, or when there is no
cooldown. The words of a clock tell the time since the last alert without overflow, and none when
the clock was set back. What is allowed now is allowed at every later time. -/
theorem AlertState.starts_iff_cooled {s : AlertState} (inactive : s.active = false)
    {last? : Option PackedInstant} (last : s.lastAlert = last?.map PackedInstant.instant)
    {value threshold : Float} (positive : 0 < threshold) (reached : threshold ≤ value)
    (now : PackedInstant) (cooldown : PackedSpan) :
    let starts (t : PackedInstant) : Prop :=
      evaluate value threshold s.active (s.since t.instant) cooldown.span = .startsToExceed
    (s.since now.instant = last?.map fun t => (t.elapsed now).span) ∧
    (∀ t ∈ last?, ((t.elapsed now).span.nanos : Int) =
      max 0 (now.instant.nanos - t.instant.nanos)) ∧
    (starts now ↔ ∀ t ∈ last?, cooldown ≤ t.elapsed now) ∧
    (starts now ↔ last? = none ∨
      (∃ t ∈ last?, t.instant.nanos + cooldown.span.nanos ≤ now.instant.nanos) ∨
      cooldown.span.nanos = 0) ∧
    ∀ later : PackedInstant, now.instant ≤ later.instant → starts now → starts later := by
  intro starts
  have hsince (t : PackedInstant) :
      s.since t.instant = last?.map fun u => (u.elapsed t).span := by
    rw [AlertState.since, last, Option.map_map]
    cases last? with
    | none => rfl
    | some u => exact congrArg some (PackedInstant.span_elapsed u t).symm
  -- in words, and then in nanoseconds
  have hwords (t : PackedInstant) : starts t ↔ ∀ u ∈ last?, cooldown ≤ u.elapsed t := by
    show evaluate value threshold s.active _ _ = _ ↔ _
    rw [inactive, startsToExceed_iff_cooledDown positive reached, cooledDown_iff, hsince]
    cases last? with
    | none => simp
    | some u => simp [PackedSpan.le_iff_span]
  have hnanos (t : PackedInstant) : starts t ↔ last? = none ∨
      (∃ u ∈ last?, u.instant.nanos + cooldown.span.nanos ≤ t.instant.nanos) ∨
      cooldown.span.nanos = 0 := by
    rw [hwords]
    cases last? with
    | none => simp
    | some u =>
      simp only [Option.mem_some_iff, forall_eq', exists_eq_left', reduceCtorEq, false_or]
      rw [PackedSpan.le_iff_span, PackedInstant.span_elapsed]
      exact Instant.le_elapsed_iff
  refine ⟨hsince now, fun t _ => ?_, hwords now, hnanos now, fun later hlater hnow => ?_⟩
  · rw [PackedInstant.span_elapsed]
    show ((now.instant.nanos - t.instant.nanos).toNat : Int) = _
    omega
  · rw [hnanos] at hnow ⊢
    rw [Instant.le_def] at hlater
    obtain hnone | ⟨t, ht, hpassed⟩ | hzero := hnow
    · exact .inl hnone
    · exact .inr (.inl ⟨t, ht, by omega⟩)
    · exact .inr (.inr hzero)

namespace AlertState.Sample

/-- Half a second after the start of a minute, on a clock that began with the calendar. -/
def halfPast : PackedInstant := ⟨-8334601228800, 500000000, by decide, by decide, by decide⟩

/-- A minute later less a nanosecond. -/
def almost : PackedInstant := ⟨-8334601228740, 499999999, by decide, by decide, by decide⟩

/-- A minute later. -/
def exactly : PackedInstant := ⟨-8334601228740, 500000000, by decide, by decide, by decide⟩

def minute : PackedSpan := ⟨60, 0, PackedSpan.zero.subsecond_lt⟩

/-- A nanosecond before the minute is over the metric is left alone, and then it is alerted. -/
theorem cooled_to_the_nanosecond :
    let s : AlertState := ⟨false, some halfPast.instant⟩
    s.active = false ∧ s.lastAlert = (some halfPast).map PackedInstant.instant ∧
      (0 : Float) < 90 ∧ (90 : Float) ≤ 95 ∧
      evaluate 95 90 s.active (s.since almost.instant) minute.span ≠ .startsToExceed ∧
      evaluate 95 90 s.active (s.since exactly.instant) minute.span = .startsToExceed := by
  intro s
  have positive : (0 : Float) < 90 := by decide +kernel
  have reached : (90 : Float) ≤ 95 := by decide +kernel
  have last : s.lastAlert = (some halfPast).map PackedInstant.instant := rfl
  have starts (now : PackedInstant) :=
    (AlertState.starts_iff_cooled (s := s) rfl last positive reached now minute).2.2.2.1
  refine ⟨rfl, last, positive, reached, fun h => ?_, (starts exactly).mpr (.inr (.inl ?_))⟩
  · obtain hnone | ⟨t, ht, hpassed⟩ | hzero := (starts almost).mp h
    · cases hnone
    · cases ht
      exact absurd hpassed (by decide)
    · exact absurd hzero (by decide)
  · exact ⟨halfPast, rfl, by decide⟩

end AlertState.Sample

end HostAlert
