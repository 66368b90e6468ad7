import HostAlert.Message.Compose
import HostAlert.Proofs.Decimal.Shown

/-!
# Percentages

A percentage is a dash exactly for a double that is no finite number, and otherwise a numeral that
shows the double, or zero if that is less, to one decimal (`percentage_finite`). An alert shows a
reading that has reached its threshold as no less than the threshold (`percentages_in_order`).
`percentage_shown` is all of it.
-/

namespace HostAlert

namespace Message

open Decimal

/-- The double that a percentage shows. -/
def floored (x : Float) : Float :=
  if x ≤ 0 then 0 else x

theorem isUnsigned_floored {x : Float} (finite : x.isFinite = true) : IsUnsigned (floored x) := by
  unfold floored
  split
  · exact isUnsigned_zero
  · next h => exact isUnsigned_of_pos finite h

theorem valueOf_floored {x : Float} (finite : x.isFinite = true) :
    valueOf (floored x) = max (valueOf x) 0 := by
  unfold floored
  split
  · next h =>
    rw [le_iff_valueOf finite isFinite_zero, valueOf_zero] at h
    rw [valueOf_zero, max_eq_right h]
  · next h =>
    rw [le_iff_valueOf finite isFinite_zero, valueOf_zero, not_le] at h
    rw [max_eq_left h.le]

theorem percentage_finite {x : Float} (finite : x.isFinite = true) :
    percentage x = shortTenths (floored x) ++ "%" ∧
      ShowsTenths (shortTenths (floored x)).toList (max (valueOf x) 0) := by
  refine ⟨if_pos finite, ?_⟩
  rw [← valueOf_floored finite]
  exact (isUnsigned_floored finite).showsTenths

theorem percentage_not_finite {x : Float} (h : x.isFinite = false) : percentage x = "-" := by
  rw [percentage, h]
  rfl

theorem dash_ne_numeral (s : String) : s ++ "%" ≠ "-" := by
  intro h
  have hlast := congrArg (fun t => t.toList.getLast?) h
  simp at hlast

theorem percentage_eq_dash_iff (x : Float) : percentage x = "-" ↔ x.isFinite = false := by
  refine ⟨fun h => Bool.eq_false_iff.mpr fun finite => ?_, percentage_not_finite⟩
  rw [(percentage_finite finite).1] at h
  exact dash_ne_numeral _ h

/-- A percentage never has a minus sign in front of digits. -/
theorem minus_not_mem_percentage {x : Float} (finite : x.isFinite = true) :
    '-' ∉ (percentage x).toList := by
  obtain ⟨hshown, hnumeral⟩ := percentage_finite finite
  rw [hshown, String.toList_append, List.mem_append, not_or]
  exact ⟨hnumeral.isNumeral.minus_not_mem, by decide⟩

theorem percentages_in_order {x threshold : Float} (finite : x.isFinite = true)
    (finite' : threshold.isFinite = true) (h : threshold ≤ x) :
    numeralValue (shortTenths (floored threshold)).toList ≤
      numeralValue (shortTenths (floored x)).toList := by
  rw [le_iff_valueOf finite' finite] at h
  exact (percentage_finite finite').2.mono (percentage_finite finite).2 (max_le_max_right 0 h)

/-- A finite double without the sign is shown as the canonical numeral of the nearest tenths, so
at most 1/20 off, in order and with whole numbers in full. A percentage is a dash exactly for a
double that is no finite number; it is otherwise the numeral of the double, or of zero if that is
less, and has no minus sign. An alert whose reading has reached the threshold shows no smaller
number for the reading; a threshold that is no finite number is not positive and shown as a dash. -/
theorem percentage_shown (x : Float) :
    (x.isFinite = true → 0 ≤ x → x.toBits ≠ 0x8000000000000000 →
      (∃ n : ℕ, (shortTenths x).toList = stripped (fixedTenths n) ∧
        numeralValue (shortTenths x).toList = n / 10 ∧ IsNearest (1 / 10) (valueOf x) n) ∧
      IsNumeral (shortTenths x).toList ∧
      |numeralValue (shortTenths x).toList - valueOf x| ≤ 1 / 20 ∧
      (∀ k : ℕ, valueOf x = k → (shortTenths x).toList = Text.decimal k) ∧
      ∀ y : Float, y.isFinite = true → y.toBits ≠ 0x8000000000000000 → x ≤ y →
        numeralValue (shortTenths x).toList ≤ numeralValue (shortTenths y).toList) ∧
    (percentage x = "-" ↔ x.isNaN = true ∨ x.isInf = true) ∧
    (percentage x ≠ "-" → percentage x = shortTenths (if x ≤ 0 then 0 else x) ++ "%" ∧
      '-' ∉ (percentage x).toList) ∧
    ∀ (config : TelegramConfig) (m : Metric) (threshold : Float) (info : Snapshot),
      x.isFinite = true → threshold ≤ x → ∃ shown limit : String,
        alertLines config m x threshold info = opening config.customMessage ++
          [ headline m, "", "📈 Metrics", "📍 Metric: " ++ m.displayName,
            "🔥 Current: " ++ (shown ++ "%"), "🎯 Threshold: " ++ limit, "" ] ++
          overviewLines info ∧
        (threshold.isFinite = false ∧ threshold ≤ 0 ∧ limit = "-" ∨
          threshold.isFinite = true ∧ ∃ least : String, limit = least ++ "%" ∧
            numeralValue least.toList ≤ numeralValue shown.toList) := by
  refine ⟨fun finite nonneg unsigned => ?_, ?_, fun hdash => ?_,
    fun config m threshold info finite hle => ?_⟩
  · have hx := (isUnsigned_of_nonneg finite nonneg unsigned).showsTenths
    refine ⟨?_, hx.isNumeral, hx.close, fun k hk => (hk ▸ hx).whole,
      fun y finite' unsigned' hle => ?_⟩
    · obtain ⟨n, hn, hnear⟩ := hx
      exact ⟨n, by rw [hn, stripped_fixedTenths], by rw [hn, numeralValue_numeralOfTenths], hnear⟩
    · rw [le_iff_valueOf isFinite_zero finite] at nonneg
      rw [le_iff_valueOf finite finite'] at hle
      have nonneg' : 0 ≤ y := (le_iff_valueOf isFinite_zero finite').mpr (nonneg.trans hle)
      exact hx.mono (isUnsigned_of_nonneg finite' nonneg' unsigned').showsTenths hle
  · rw [percentage_eq_dash_iff, isFinite_eq_false_iff]
  · have finite : x.isFinite = true := by
      rw [ne_eq, percentage_eq_dash_iff, Bool.not_eq_false] at hdash
      exact hdash
    exact ⟨(percentage_finite finite).1, minus_not_mem_percentage finite⟩
  · refine ⟨shortTenths (floored x), percentage threshold, ?_, ?_⟩
    · rw [← (percentage_finite finite).1]
      rfl
    · cases finite' : threshold.isFinite with
      | false =>
        exact .inl ⟨rfl, le_zero_of_le hle finite finite', percentage_not_finite finite'⟩
      | true =>
        exact .inr ⟨rfl, _, (percentage_finite finite').1, percentages_in_order finite finite' hle⟩

namespace Sample

theorem shown_as_hundred : (shortTenths 99.96).toList = "100".toList ∧
    IsNumeral (shortTenths 99.96).toList ∧
    |numeralValue (shortTenths 99.96).toList - valueOf 99.96| ≤ 1 / 20 ∧
    '-' ∉ (percentage 99.96).toList ∧
    ∃ shown limit : String,
      alertLines .initial .cpu 99.96 90 .empty = opening TelegramConfig.initial.customMessage ++
        [ headline .cpu, "", "📈 Metrics", "📍 Metric: " ++ Metric.cpu.displayName,
          "🔥 Current: " ++ (shown ++ "%"), "🎯 Threshold: " ++ limit, "" ] ++
        overviewLines .empty ∧
      ∃ least : String, limit = least ++ "%" ∧
        numeralValue least.toList ≤ numeralValue shown.toList := by
  have hfinite : (99.96 : Float).isFinite = true := by decide +kernel
  obtain ⟨htenths, -, hpercent, halert⟩ := percentage_shown 99.96
  obtain ⟨-, hnumeral, hclose, -⟩ := htenths hfinite (by decide +kernel) (by decide +kernel)
  obtain ⟨-, hminus⟩ := hpercent (by decide +kernel)
  obtain ⟨shown, limit, hlines, hlimit⟩ :=
    halert .initial .cpu 90 .empty hfinite (by decide +kernel)
  obtain ⟨hninety, -⟩ | ⟨-, hleast⟩ := hlimit
  · exact absurd hninety (by decide +kernel)
  · exact ⟨by decide +kernel, hnumeral, hclose, hminus, shown, limit, hlines, hleast⟩

end Sample

end Message

end HostAlert
