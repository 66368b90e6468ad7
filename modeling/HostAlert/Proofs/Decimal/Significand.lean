import HostAlert.Proofs.Decimal.Nearest

/-!
# Rounding to 53 bits

Shifting a significand to the right and rounding it gives the rounded quotient by a power of two
(`roundedMantissa_shift`). So a number of 53 bits or more is rounded to the nearest multiple of the
last of its first 53 bits (`roundWithAccuracy_exact`).
-/

namespace HostAlert.Decimal

open Float.Model (Format UnpackedFloat totalExponent)
open Float.Model.UnpackedFloat

/-! ### Shifting and rounding -/

/-- The bits that are shifted out leave the last one of them and whether any other is set. -/
theorem shift_succ (m k : Nat) : ExtendedMantissa.ofMantissaAndAccuracy m .exact >>> (k + 1) =
    ⟨m / 2 ^ (k + 1), m / 2 ^ k % 2 != 0, m % 2 ^ k != 0⟩ := by
  induction k with
  | zero =>
    show ExtendedMantissa.mk (m / 2) (m % 2 != 0) false = _
    simp [Nat.mod_one]
  | succ k ih =>
    show (ExtendedMantissa.ofMantissaAndAccuracy m .exact >>> (k + 1)).shiftRightOne = _
    have hsticky : (m / 2 ^ k % 2 != 0 || m % 2 ^ k != 0) = (m % 2 ^ (k + 1) != 0) := by
      have hpos := Nat.two_pow_pos k
      obtain h | h := Nat.mod_two_eq_zero_or_one (m / 2 ^ k)
      · rw [Nat.mod_pow_succ, h]
        simp
      · have hne : m % 2 ^ (k + 1) ≠ 0 := by
          rw [Nat.mod_pow_succ, h]
          omega
        simp [h, hne]
    rw [ih, ExtendedMantissa.shiftRightOne, hsticky, Nat.div_div_eq_div_mul, ← Nat.pow_succ]

theorem roundedMantissa_mk (q : Nat) (round sticky : Bool) :
    (ExtendedMantissa.mk q round sticky).roundedMantissa =
      if round && (sticky || q % 2 == 1) then q + 1 else q := by
  obtain h | h := Nat.mod_two_eq_zero_or_one q <;> cases round <;> cases sticky <;>
    simp [h, ExtendedMantissa.roundedMantissa, ExtendedMantissa.accuracy,
      Accuracy.roundToNearestEven]

theorem roundedMantissa_shift (m k : Nat) :
    (ExtendedMantissa.ofMantissaAndAccuracy m .exact >>> k).roundedMantissa =
      roundQuotient m (2 ^ k) := by
  cases k with
  | zero => exact (roundQuotient_one m).symm
  | succ k =>
    have hpos := Nat.two_pow_pos k
    have hlt := Nat.mod_lt m hpos
    rw [shift_succ, roundedMantissa_mk, roundQuotient, Nat.mod_pow_succ, Nat.pow_succ]
    refine if_congr ?_ rfl rfl
    rw [Bool.and_eq_true, Bool.or_eq_true, bne_iff_ne, bne_iff_ne, beq_iff_eq]
    obtain hround | hround := Nat.mod_two_eq_zero_or_one (m / 2 ^ k) <;> rw [hround] <;> omega

theorem shiftToTargetExponent_rounded (m : Nat) (e : Int) :
    (shiftToTargetExponent .binary64 m e .exact).1.roundedMantissa =
      roundQuotient m (2 ^ (target m e - e).toNat) := by
  rw [← targetExponent_eq]
  exact roundedMantissa_shift m _

/-! ### Numbers of 53 bits or more -/

theorem roundQuotient_bounds (num den : Nat) :
    num / den ≤ roundQuotient num den ∧ roundQuotient num den ≤ num / den + 1 := by
  unfold roundQuotient
  dsimp only
  split <;> omega

/-- A significand that is rounded up to one bit more is shifted once again. -/
theorem roundWithAccuracy_exact (s : Sign) {m k : Nat} {e : Int} (bits : m.log2 = 52 + k)
    (low : -1074 ≤ e + k) : ∃ m' e' h,
      roundWithAccuracy .binary64 s m e .exact = .finite s m' e' h ∧ m'.log2 = 52 ∧
        (m' = roundQuotient m (2 ^ k) ∧ e' = e + k ∨
          roundQuotient m (2 ^ k) = 2 ^ 53 ∧ m' = 2 ^ 52 ∧ e' = e + k + 1) := by
  have hm : m ≠ 0 := by
    rintro rfl
    rw [Nat.log2_zero] at bits
    omega
  have hshift : (target m e - e).toNat = k := by
    rw [target]
    omega
  have hexponent : max e (target m e) = e + k := by
    rw [target]
    omega
  obtain ⟨hlow, hhigh⟩ := roundQuotient_bounds m (2 ^ k)
  have hbits : (m / 2 ^ k).log2 = 52 := log2_div_two_pow hm bits
  have hdivlt : m / 2 ^ k < 2 ^ 53 := by
    rw [Nat.div_lt_iff_lt_mul (Nat.two_pow_pos k), ← Nat.pow_add]
    exact Nat.lt_of_lt_of_eq Nat.lt_log2_self (by rw [bits]; congr 1; omega)
  obtain ⟨r, hr⟩ : ∃ r, r = roundQuotient m (2 ^ k) := ⟨_, rfl⟩
  rw [← hr] at hlow hhigh ⊢
  have hdivne : m / 2 ^ k ≠ 0 := by
    intro hzero
    rw [hzero] at hbits
    exact absurd hbits (by decide)
  have hrne : r ≠ 0 := Nat.ne_of_gt (Nat.lt_of_lt_of_le (Nat.pos_of_ne_zero hdivne) hlow)
  have hround : roundWithAccuracy .binary64 s m e .exact =
      if h : r / 2 ^ (target r (e + k) - (e + k)).toNat = 0 then .zero s
      else .finite s _ (max (e + k) (target r (e + k))) (Nat.pos_of_ne_zero h) := by
    simp only [roundWithAccuracy, shiftToTargetExponent_mantissa, shiftToTargetExponent_exponent,
      shiftToTargetExponent_rounded, hshift, hexponent, ← hr]
  rw [hround]
  obtain hfits | hcarry := Nat.lt_or_ge r (2 ^ 53)
  · have hrbits : r.log2 = 52 := by
      have hge := hbits ▸ log2_le_log2 hdivne hlow
      have hlt := (Nat.log2_lt hrne).mpr hfits
      omega
    have hshift' : (target r (e + k) - (e + k)).toNat = 0 := by
      rw [target]
      omega
    have hexponent' : max (e + k) (target r (e + k)) = e + k := by
      rw [target]
      omega
    refine ⟨r, e + k, Nat.pos_of_ne_zero hrne, ?_, hrbits, .inl ⟨rfl, rfl⟩⟩
    simp only [hshift', hexponent', pow_zero, Nat.div_one, dif_neg hrne]
  · obtain rfl : r = 2 ^ 53 := by omega
    have htarget : target (2 ^ 53) (e + k) = e + k + 1 := by
      rw [target, Nat.log2_two_pow]
      omega
    have hshift' : (target (2 ^ 53) (e + k) - (e + k)).toNat = 1 := by
      rw [htarget]
      omega
    have hexponent' : max (e + k) (target (2 ^ 53) (e + k)) = e + k + 1 := by
      rw [htarget]
      omega
    refine ⟨2 ^ 52, e + k + 1, Nat.two_pow_pos 52, ?_, Nat.log2_two_pow, .inr ⟨rfl, rfl, rfl⟩⟩
    simp only [hshift', hexponent']
    rfl

end HostAlert.Decimal
