import HostAlert.Proofs.Message.Size

/-!
# Sizes just below the next unit

The unit of a size is chosen before the size is rounded to one decimal, so the rounding may carry
what is shown up to 1024 of that unit. This happens exactly from one twentieth of the unit below the
next unit on (`shown_below_next_iff`); nothing larger is shown.
-/

namespace HostAlert

namespace Decimal

/-- A number is shown as less than a whole number unless it lies within half a tenth of it or
above. Midway the tie goes to the whole number, whose tenths are even. -/
theorem ShowsTenths.lt_whole_iff {s : List Char} {q : ℚ} {k : ℕ} (h : ShowsTenths s q) :
    numeralValue s < k ↔ q < k - 1 / 20 := by
  have hclose := abs_le.mp h.close
  constructor
  · intro hless
    rcases h with ⟨n, rfl, hnear⟩
    rw [numeralValue_numeralOfTenths] at hless hclose
    have hbelow : n + 1 ≤ 10 * k := by
      rw [div_lt_iff₀ (by norm_num)] at hless
      have hlt : n < k * 10 := by exact_mod_cast hless
      omega
    have hbelow' : (n : ℚ) + 1 ≤ 10 * k := by exact_mod_cast hbelow
    by_contra hge
    -- then `n` and `n + 1` tenths are equally near, and `n + 1` is the even one
    have hmid : q = n / 10 + 1 / 20 := by linarith [hclose.1]
    have hnext : (n : ℚ) + 1 = 10 * k := by linarith
    have htie : |((10 * k : ℤ) : ℚ) * (1 / 10) - q| = |((n : ℤ) : ℚ) * (1 / 10) - q| := by
      have hup : ((10 * k : ℤ) : ℚ) * (1 / 10) - q = 1 / 20 := by
        push_cast
        linarith
      have hdown : ((n : ℤ) : ℚ) * (1 / 10) - q = -(1 / 20) := by
        push_cast
        linarith
      rw [hup, hdown, abs_neg]
    have heven := hnear.even (10 * k) (by omega) htie
    have hnext' : n + 1 = 10 * k := by exact_mod_cast hnext
    rw [Int.even_iff] at heven
    omega
  · intro hless
    linarith [hclose.2]

theorem numeralOfTenths_whole (k : ℕ) : numeralOfTenths (10 * k) = Text.decimal k := by
  unfold numeralOfTenths
  rw [if_pos (Nat.mul_mod_right 10 k), Nat.mul_div_cancel_left k (by decide)]

theorem ShowsTenths.eq_decimal {s : List Char} {q : ℚ} {k : ℕ} (h : ShowsTenths s q)
    (hk : numeralValue s = k) : s = Text.decimal k := by
  rcases h with ⟨n, rfl, -⟩
  rw [numeralValue_numeralOfTenths, div_eq_iff (by norm_num)] at hk
  have hn : n = 10 * k := by
    have hcast : n = k * 10 := by exact_mod_cast hk
    omega
  rw [hn, numeralOfTenths_whole]

end Decimal

namespace Message

open Decimal

/-- From this size on, as a double, what is shown in the unit is carried to 1024. -/
def carriesFrom (unit : ℕ) : ℚ :=
  1024 ^ (unit + 1) - 1024 ^ unit / 20

theorem lt_carriesFrom_iff (q : ℚ) (u : ℕ) :
    q / 1024 ^ u < (1024 : ℕ) - 1 / 20 ↔ q < carriesFrom u := by
  have hfactor : (((1024 : ℕ) : ℚ) - 1 / 20) * 1024 ^ u = carriesFrom u := by
    unfold carriesFrom
    rw [pow_succ]
    push_cast
    ring
  rw [div_lt_iff₀ (unit_pos u), hfactor]

variable {v : UInt64} {u : ℕ}

theorem valueOf_next (h : u ≤ 5) : valueOf (unitSize (u + 1)) = 1024 ^ (u + 1) := by
  by_cases hu : u = 5
  · have hparts : Parts.ofFloat? (unitSize 6) = some ⟨false, 2 ^ 52, 8⟩ := by decide +kernel
    rw [hu, valueOf_eq hparts]
    norm_num [Parts.value]
  · exact valueOf_unitSize (by omega)

theorem toNat_next (h : u ≤ 5) : (Nat.pow 1024 (u + 1)).toUInt64.toNat = 1024 ^ (u + 1) := by
  have hle : 1024 ^ (u + 1) ≤ 1024 ^ 6 := Nat.pow_le_pow_right (by decide) (by omega)
  exact Nat.mod_eq_of_lt (Nat.lt_of_le_of_lt hle (by decide))

theorem valueOf_le_next (h : u ≤ 5) (hv : v.toNat < 1024 ^ (u + 1)) :
    valueOf v.toFloat ≤ 1024 ^ (u + 1) := by
  have hle : v ≤ (Nat.pow 1024 (u + 1)).toUInt64 := by
    rw [UInt64.le_iff_toNat_le, toNat_next h]
    omega
  exact valueOf_next h ▸ valueOf_toFloat_mono hle

theorem valueOf_of_lt (h : v.toNat < 2 ^ 53) : valueOf v.toFloat = v.toNat := by
  by_cases hv : v.toNat = 0
  · exact valueOf_toFloat_exact (by rw [hv]; decide)
  · have hlog := (Nat.log2_lt hv).mpr h
    exact valueOf_toFloat_exact (by omega)

theorem amount_lt_iff (h : u ≤ 5) (hv : v.toNat < 1024 ^ (u + 1)) :
    numeralValue (amount v u) < 1024 ↔ valueOf v.toFloat < carriesFrom u := by
  by_cases hu : u = 0
  · subst hu
    have hsmall : v.toNat ≤ 1023 := by omega
    have hsmall' : (v.toNat : ℚ) ≤ 1023 := by exact_mod_cast hsmall
    rw [numeralValue_amount_zero, valueOf_of_lt (by omega), carriesFrom]
    constructor <;> intro <;> norm_num <;> linarith
  · have hshows := (showsTenths_amount v h hu).lt_whole_iff (k := 1024)
    rw [lt_carriesFrom_iff] at hshows
    exact_mod_cast hshows

/-- What is carried is shown as 1024. -/
theorem amount_of_carries (h : u ≤ 5) (hv : v.toNat < 1024 ^ (u + 1))
    (carries : carriesFrom u ≤ valueOf v.toFloat) : amount v u = Text.decimal 1024 := by
  have hge := mt (amount_lt_iff h hv).mp (not_lt.mpr carries)
  have hu : u ≠ 0 := by
    rintro rfl
    refine hge ?_
    rw [numeralValue_amount_zero]
    exact_mod_cast hv
  have hshows := showsTenths_amount v h hu
  have hle : numeralValue (amount v u) ≤ (1024 : ℕ) := by
    refine hshows.le_whole ?_
    rw [div_le_iff₀ (unit_pos u)]
    exact (valueOf_le_next h hv).trans_eq (pow_succ' _ u)
  refine hshows.eq_decimal (le_antisymm hle ?_)
  exact_mod_cast not_lt.mp hge

/-- The number in front of the unit of a size is less than 1024 exactly if the size, as a double,
lies more than one twentieth of that unit below the next unit, and is 1024 otherwise. A size of at
most 53 bits is itself as a double, and a longer one the nearest double. -/
theorem shown_below_next_iff (h : v.toNat < 1024 ^ 6) :
    bytes v = String.ofList (amount v (chooseUnit v)) ++ " " ++ byteUnits.getD (chooseUnit v) "" ∧
    (numeralValue (amount v (chooseUnit v)) < 1024 ↔
      valueOf v.toFloat < 1024 ^ (chooseUnit v + 1) - 1024 ^ chooseUnit v / 20) ∧
    (1024 ^ (chooseUnit v + 1) - 1024 ^ chooseUnit v / 20 ≤ valueOf v.toFloat →
      bytes v = "1024 " ++ byteUnits.getD (chooseUnit v) "") ∧
    IsNearestDouble v.toNat v.toFloat ∧ (v.toNat < 2 ^ 53 → valueOf v.toFloat = v.toNat) := by
  obtain ⟨hunit, -, hnext⟩ := (eq_chooseUnit_iff v _).mp rfl
  have hbelow : v.toNat < 1024 ^ (chooseUnit v + 1) := by
    rcases hnext with hlast | hless
    · rw [hlast]
      exact h
    · exact hless
  refine ⟨bytesIn_eq v hunit, amount_lt_iff hunit hbelow, fun carries => ?_,
    isNearestDouble_toFloat v, valueOf_of_lt⟩
  have hbytes : bytes v = _ := bytesIn_eq v hunit
  rw [hbytes, amount_of_carries hunit hbelow carries]
  rfl

namespace Sample

theorem carried_kilobytes : bytes 1048524 = "1023.9 KB" ∧
    numeralValue (amount 1048524 (chooseUnit 1048524)) < 1024 ∧ bytes 1048525 = "1024 KB" := by
  have hunit : chooseUnit 1048524 = 1 ∧ chooseUnit 1048525 = 1 := by decide +kernel
  obtain ⟨-, hless, -, -, hexact⟩ := shown_below_next_iff (v := 1048524) (by decide)
  obtain ⟨-, -, hcarry, -, hexact'⟩ := shown_below_next_iff (v := 1048525) (by decide)
  rw [hexact (by decide), hunit.1] at hless
  rw [hexact' (by decide), hunit.2] at hcarry
  refine ⟨by decide +kernel, ?_, hcarry ?_⟩
  · rw [hunit.1]
    refine hless.mpr ?_
    show ((1048524 : ℕ) : ℚ) < _
    norm_num
  · show _ ≤ ((1048525 : ℕ) : ℚ)
    norm_num

/-- So the number in front of a unit may be 1024. -/
theorem rolled_over : bytes 1048575 = "1024 KB" ∧ ¬ ∀ v : UInt64, v.toNat < 1024 ^ 6 →
    ∀ shown : List Char, ∀ unit ∈ byteUnits, bytes v = String.ofList shown ++ " " ++ unit →
      numeralValue shown < 1024 := by
  have hbytes : bytes 1048575 = "1024 KB" := by decide +kernel
  refine ⟨hbytes, fun h => ?_⟩
  have hless := h 1048575 (by decide) "1024".toList "KB" (by decide) hbytes
  rw [show "1024".toList = Text.decimal 1024 by decide +kernel, numeralValue_decimal] at hless
  norm_num at hless

end Sample

end Message

end HostAlert
