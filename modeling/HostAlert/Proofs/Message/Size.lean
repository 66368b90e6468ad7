import HostAlert.Message.Amount
import HostAlert.Proofs.Decimal.Whole

/-!
# Byte sizes

The unit of a size is the largest that is not above it (`eq_chooseUnit_iff`). In a larger unit than
bytes a size is shown to one decimal, and the only rounding before that is the one to a double
(`showsTenths_amount`). So what is shown is close to the size (`close_amount`) and never decreases
with it, also where the unit changes (`shownBytes_mono`). `sizes_shown` is all of it.
-/

namespace HostAlert.Message

open Decimal

/-! ### Units -/

theorem eq_unitWithin_iff (room n u : Nat) : u = unitWithin room n ↔
    u ≤ room ∧ (u = 0 ∨ 1024 ^ u ≤ n) ∧ (u = room ∨ n < 1024 ^ (u + 1)) := by
  induction room generalizing n u with
  | zero =>
    rw [unitWithin]
    omega
  | succ room ih =>
    rw [unitWithin]
    cases u with
    | zero =>
      rw [zero_add, pow_one]
      split <;> omega
    | succ u =>
      have hlow : 1024 ^ (u + 1) ≤ n ↔ 1024 ^ u ≤ n / 1024 := by
        rw [Nat.pow_succ, Nat.le_div_iff_mul_le (by decide)]
      have hhigh : n < 1024 ^ (u + 1 + 1) ↔ n / 1024 < 1024 ^ (u + 1) := by
        rw [Nat.pow_succ, Nat.div_lt_iff_lt_mul (by decide)]
      have hpos : 0 < 1024 ^ u := Nat.pow_pos (by decide)
      split
      · next hless =>
        have hone : n / 1024 = 0 := Nat.div_eq_of_lt hless
        omega
      · next hmore =>
        have hone : 1 ≤ n / 1024 := by omega
        have hfirst : u = 0 ∨ 1024 ^ u ≤ n / 1024 ↔ 1024 ^ u ≤ n / 1024 :=
          or_iff_right_of_imp fun h => by
            rw [h, pow_zero]
            exact hone
        have hrest := ih (n / 1024) u
        rw [hfirst] at hrest
        omega

/-- The unit of a size. -/
theorem eq_chooseUnit_iff (v : UInt64) (u : Nat) : u = chooseUnit v ↔
    u ≤ 5 ∧ (u = 0 ∨ 1024 ^ u ≤ v.toNat) ∧ (u = 5 ∨ v.toNat < 1024 ^ (u + 1)) :=
  eq_unitWithin_iff 5 v.toNat u

theorem chooseUnit_le (v : UInt64) : chooseUnit v ≤ 5 :=
  unitWithin_le 5 v.toNat

theorem toNat_unit {u : Nat} (h : u ≤ 5) : (Nat.pow 1024 u).toUInt64.toNat = 1024 ^ u := by
  have hle : 1024 ^ u ≤ 1024 ^ 5 := Nat.pow_le_pow_right (by decide) h
  exact Nat.mod_eq_of_lt (Nat.lt_of_le_of_lt hle (by decide))

theorem unit_pos (u : Nat) : (0 : ℚ) < 1024 ^ u :=
  pow_pos (by norm_num) u

theorem ofFloat?_unitSize : ∀ u ≤ 5,
    Parts.ofFloat? (unitSize u) = some ⟨false, 2 ^ 52, 10 * u - 52⟩ := by
  decide +kernel

theorem valueOf_unitSize {u : Nat} (h : u ≤ 5) : valueOf (unitSize u) = 1024 ^ u := by
  have hten : (1024 : ℚ) ^ u = 2 ^ (10 * (u : ℤ)) := by
    rw [zpow_mul, zpow_natCast]
    norm_num
  rw [valueOf_eq (ofFloat?_unitSize u h), Parts.value, hten, zpow_sub₀ two_ne_zero]
  norm_num
  field_simp

/-! ### Numbers of units -/

/-- The number that shows a size in a unit. -/
def amount (v : UInt64) (unit : Nat) : List Char :=
  if unit = 0 then Text.grouped (Text.decimal v.toNat)
  else (shortTenths (v.toFloat / unitSize unit)).toList

theorem bytesIn_eq (v : UInt64) {u : Nat} (h : u ≤ 5) :
    bytesIn v u = String.ofList (amount v u) ++ " " ++ byteUnits.getD u "" := by
  have hunit : min u largestUnit = u := Nat.min_eq_left h
  rw [bytesIn, hunit, amount]
  split <;> simp [Text.groupedNat]

theorem valueOf_scaled (v : UInt64) {u : Nat} (h : u ≤ 5) :
    IsUnsigned (v.toFloat / unitSize u) ∧
      valueOf (v.toFloat / unitSize u) = valueOf v.toFloat / 1024 ^ u := by
  by_cases hv : v.toNat = 0
  · obtain rfl : v = 0 := UInt64.toNat_inj.mp hv
    have hzero : ∀ u ≤ 5, Parts.ofFloat? ((0 : UInt64).toFloat / unitSize u) =
        some ⟨false, 0, -1074⟩ := by
      decide +kernel
    refine ⟨⟨_, hzero u h, rfl⟩, ?_⟩
    rw [valueOf_eq (hzero u h), valueOf_toFloat]
    simp [Parts.value, roundQuotient]
  · obtain ⟨m, e, hparts, hbits, hlow, hhigh, -⟩ := ofFloat?_toFloat hv
    rw [← valueOf_unitSize h]
    exact valueOf_div_two_pow hparts hbits (ofFloat?_unitSize u h) (by omega) (by omega)

theorem showsTenths_amount (v : UInt64) {u : Nat} (h : u ≤ 5) (hu : u ≠ 0) :
    ShowsTenths (amount v u) (valueOf v.toFloat / 1024 ^ u) := by
  obtain ⟨hunsigned, hvalue⟩ := valueOf_scaled v h
  rw [amount, if_neg hu, ← hvalue]
  exact hunsigned.showsTenths

theorem numeralValue_amount_zero (v : UInt64) : numeralValue (amount v 0) = v.toNat :=
  numeralValue_grouped v.toNat

/-- What is shown is off by the rounding to one decimal and the rounding to a double. -/
theorem close_amount (v : UInt64) {u : Nat} (h : u ≤ 5) :
    |numeralValue (amount v u) * 1024 ^ u - v.toNat| ≤ 1024 ^ u / 20 + 1024 := by
  obtain rfl | hu := eq_or_ne u 0
  · rw [numeralValue_amount_zero, pow_zero, mul_one, sub_self, abs_zero]
    norm_num
  · have hpos := unit_pos u
    have hclose := (showsTenths_amount v h hu).close
    have hscaled : |numeralValue (amount v u) * 1024 ^ u - valueOf v.toFloat| ≤ 1024 ^ u / 20 := by
      have hfactor : numeralValue (amount v u) * 1024 ^ u - valueOf v.toFloat =
          (numeralValue (amount v u) - valueOf v.toFloat / 1024 ^ u) * 1024 ^ u := by
        field_simp
      rw [hfactor, abs_mul, abs_of_pos hpos]
      linarith [mul_le_mul_of_nonneg_right hclose hpos.le]
    exact (abs_sub_le _ (valueOf v.toFloat) _).trans (add_le_add hscaled (close_toFloat v))

theorem amount_mono {v w : UInt64} (hvw : v ≤ w) {u : Nat} (h : u ≤ 5) :
    numeralValue (amount v u) ≤ numeralValue (amount w u) := by
  obtain rfl | hu := eq_or_ne u 0
  · rw [numeralValue_amount_zero, numeralValue_amount_zero]
    exact_mod_cast UInt64.le_iff_toNat_le.mp hvw
  · have hpos := unit_pos u
    exact (showsTenths_amount v h hu).mono (showsTenths_amount w h hu)
      (div_le_div_of_nonneg_right (valueOf_toFloat_mono hvw) hpos.le)

/-! ### Units of a size -/

def shownBytes (v : UInt64) : ℚ :=
  numeralValue (amount v (chooseUnit v)) * 1024 ^ chooseUnit v

theorem amount_le_next {v : UInt64} {u : Nat} (h : u < 5) (hv : v.toNat < 1024 ^ (u + 1)) :
    numeralValue (amount v u) ≤ 1024 := by
  obtain rfl | hu := eq_or_ne u 0
  · rw [numeralValue_amount_zero]
    exact_mod_cast hv.le
  · have hpos := unit_pos u
    have hle : v ≤ (Nat.pow 1024 (u + 1)).toUInt64 := by
      rw [UInt64.le_iff_toNat_le, toNat_unit h]
      exact hv.le
    have hnext : valueOf v.toFloat ≤ 1024 ^ (u + 1) :=
      valueOf_unitSize (u := u + 1) h ▸ valueOf_toFloat_mono hle
    refine (showsTenths_amount v h.le hu).le_whole (k := 1024) ?_
    rw [div_le_iff₀ hpos]
    exact hnext.trans_eq (pow_succ' _ u)

/-- A size is shown as at least one of its unit. -/
theorem one_le_amount {v : UInt64} {u : Nat} (h : u ≤ 5) (hu : u ≠ 0) (hv : 1024 ^ u ≤ v.toNat) :
    1 ≤ numeralValue (amount v u) := by
  have hpos := unit_pos u
  have hle : (Nat.pow 1024 u).toUInt64 ≤ v := by
    rw [UInt64.le_iff_toNat_le, toNat_unit h]
    exact hv
  have hunit : (1024 : ℚ) ^ u ≤ valueOf v.toFloat :=
    valueOf_unitSize h ▸ valueOf_toFloat_mono hle
  have hquotient : ((1 : ℕ) : ℚ) ≤ valueOf v.toFloat / 1024 ^ u := by
    rw [Nat.cast_one, le_div_iff₀ hpos, one_mul]
    exact hunit
  exact_mod_cast (showsTenths_amount v h hu).whole_le hquotient

theorem chooseUnit_mono {v w : UInt64} (h : v ≤ w) : chooseUnit v ≤ chooseUnit w := by
  obtain ⟨hv, hvlow, -⟩ := (eq_chooseUnit_iff v _).mp rfl
  obtain ⟨-, -, hwhigh⟩ := (eq_chooseUnit_iff w _).mp rfl
  by_contra hlt
  have hle : 1024 ^ (chooseUnit w + 1) ≤ 1024 ^ chooseUnit v :=
    Nat.pow_le_pow_right (by decide) (by omega)
  have hvw := UInt64.le_iff_toNat_le.mp h
  omega

/-- What is shown never decreases with the size, also where the unit changes. -/
theorem shownBytes_mono {v w : UInt64} (h : v ≤ w) : shownBytes v ≤ shownBytes w := by
  obtain ⟨hv, -, hvhigh⟩ := (eq_chooseUnit_iff v _).mp rfl
  obtain ⟨hw, hwlow, -⟩ := (eq_chooseUnit_iff w _).mp rfl
  rw [shownBytes, shownBytes]
  obtain heq | hlt := Nat.eq_or_lt_of_le (chooseUnit_mono h)
  · rw [← heq]
    exact mul_le_mul_of_nonneg_right (amount_mono h hv) (unit_pos _).le
  · -- what is shown in the smaller unit stays within one of the larger unit
    have hnext := amount_le_next (by omega) (hvhigh.resolve_left (by omega))
    have hone := one_le_amount hw (by omega) (hwlow.resolve_left (by omega))
    calc numeralValue (amount v (chooseUnit v)) * 1024 ^ chooseUnit v
      _ ≤ 1024 * 1024 ^ chooseUnit v := mul_le_mul_of_nonneg_right hnext (unit_pos _).le
      _ = 1024 ^ (chooseUnit v + 1) := (pow_succ' _ _).symm
      _ ≤ 1024 ^ chooseUnit w := pow_le_pow_right₀ (by norm_num) hlt
      _ ≤ numeralValue (amount w (chooseUnit w)) * 1024 ^ chooseUnit w :=
        le_mul_of_one_le_left (unit_pos _).le hone

/-! ### Messages -/

theorem capacity_eq {used total : UInt64} (h : total ≠ 0) : capacity used total =
    bytesIn used (chooseUnit total) ++ " / " ++ bytesIn total (chooseUnit total) :=
  if_neg h

theorem usage_eq {used total : UInt64} (h : total ≠ 0) (percent : Float) :
    usage used total percent = capacity used total ++ " (" ++ percentage percent ++ ")" :=
  if_neg h

/-- The unit of a size is the only one that is not above it while the next one is, and the size is
shown as what is nearest to it there as a double, in whole bytes as it is. That is close to the size
and never decreases with it. A part of a total is shown in the unit of the total, as no more than
the total. -/
theorem sizes_shown (v : UInt64) :
    (∀ u : ℕ, u = chooseUnit v ↔
      u ≤ 5 ∧ (u = 0 ∨ 1024 ^ u ≤ v.toNat) ∧ (u = 5 ∨ v.toNat < 1024 ^ (u + 1))) ∧
    IsNearestDouble v.toNat v.toFloat ∧
    bytes v = String.ofList (amount v (chooseUnit v)) ++ " " ++ byteUnits.getD (chooseUnit v) "" ∧
    (chooseUnit v = 0 → amount v (chooseUnit v) = Text.grouped (Text.decimal v.toNat) ∧
      numeralValue (amount v (chooseUnit v)) = v.toNat) ∧
    (chooseUnit v ≠ 0 → ∃ n : ℕ, amount v (chooseUnit v) = stripped (fixedTenths n) ∧
      numeralValue (amount v (chooseUnit v)) = n / 10 ∧
      IsNearest (1 / 10) (valueOf v.toFloat / 1024 ^ chooseUnit v) n) ∧
    |shownBytes v - v.toNat| ≤ 1024 ^ chooseUnit v / 20 + 1024 ∧
    (∀ w : UInt64, v ≤ w → shownBytes v ≤ shownBytes w) ∧
    ∀ used : UInt64, 0 < v → used ≤ v →
      capacity used v =
        (String.ofList (amount used (chooseUnit v)) ++ " " ++ byteUnits.getD (chooseUnit v) "") ++
        " / " ++
        (String.ofList (amount v (chooseUnit v)) ++ " " ++ byteUnits.getD (chooseUnit v) "") ∧
      (∀ percent : Float,
        usage used v percent = capacity used v ++ " (" ++ percentage percent ++ ")") ∧
      numeralValue (amount used (chooseUnit v)) ≤ numeralValue (amount v (chooseUnit v)) := by
  have hunit := chooseUnit_le v
  refine ⟨eq_chooseUnit_iff v, isNearestDouble_toFloat v, bytesIn_eq v hunit, fun hzero => ?_,
    fun hu => ?_, close_amount v hunit, fun w => shownBytes_mono, fun used hpos hle => ?_⟩
  · rw [hzero]
    exact ⟨rfl, numeralValue_amount_zero v⟩
  · obtain ⟨n, hn, hnear⟩ := showsTenths_amount v hunit hu
    exact ⟨n, by rw [hn, stripped_fixedTenths], by rw [hn, numeralValue_numeralOfTenths], hnear⟩
  · have hne : v ≠ 0 := by
      rintro rfl
      exact absurd hpos (by decide)
    refine ⟨?_, usage_eq hne, amount_mono hle hunit⟩
    rw [capacity_eq hne, bytesIn_eq used hunit, bytesIn_eq v hunit]

namespace Sample

/-- The largest size in kilobytes is rounded up to as much as the smallest one in megabytes. -/
theorem full_kilobytes : bytes 1048575 = "1024 KB" ∧ bytes 1048576 = "1 MB" ∧
    shownBytes 1048575 ≤ shownBytes 1048576 ∧
    capacity 512 1048575 = "0.5 KB / 1024 KB" ∧
    numeralValue (amount 512 (chooseUnit 1048575)) ≤
      numeralValue (amount 1048575 (chooseUnit 1048575)) := by
  obtain ⟨-, -, -, -, -, -, hmono, hpart⟩ := sizes_shown 1048575
  obtain ⟨-, -, hle⟩ := hpart 512 (by decide) (by decide)
  exact ⟨by decide +kernel, by decide +kernel, hmono 1048576 (by decide), by decide +kernel, hle⟩

end Sample

end HostAlert.Message
