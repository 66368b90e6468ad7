import HostAlert.Proofs.Decimal.Shown
import HostAlert.Proofs.Decimal.Significand

/-!
# Whole numbers as doubles

A whole number of 64 bits is stored as the nearest double, the one with the even significand where
two are equally near (`isNearestDouble_toFloat`). That is at most 1024 off (`close_toFloat`) and in
order (`valueOf_toFloat_mono`). A double divided by a power of two is the exact quotient
(`ofFloat?_div_two_pow`).
-/

namespace HostAlert.Decimal

open Float.Model (Format UnpackedFloat totalExponent)
open Float.Model.UnpackedFloat

/-- No finite double is nearer to `q`, and the significand is even if another one is as near. -/
structure IsNearestDouble (q : ℚ) (x : Float) : Prop where
  finite : x.isFinite = true
  near : ∀ y : Float, y.isFinite = true → |valueOf x - q| ≤ |valueOf y - q|
  even : ∀ y : Float, y.isFinite = true → valueOf y ≠ valueOf x →
    |valueOf y - q| = |valueOf x - q| → ∀ p, Parts.ofFloat? x = some p → Even p.significand

/-! ### Storing -/

theorem log2_mul_two_pow {n : Nat} (h : n ≠ 0) (k : Nat) : (n * 2 ^ k).log2 = n.log2 + k := by
  have hne : n * 2 ^ k ≠ 0 := Nat.mul_ne_zero h (Nat.ne_of_gt (Nat.two_pow_pos k))
  refine (Nat.log2_eq_iff hne).mpr ⟨?_, ?_⟩
  · rw [Nat.pow_add]
    exact Nat.mul_le_mul_right _ (Nat.log2_self_le h)
  · rw [← Nat.shiftLeft_eq]
    exact shiftLeft_lt n k

theorem ofFloat?_pack {m : Nat} {e : Int} (h : 0 < m) (bits : m.log2 = 52) (low : -1074 ≤ e)
    (high : e ≤ 971) :
    Parts.ofFloat? (.ofModel (.pack (.finite .positive m e h))) = some ⟨false, m, e⟩ := by
  rw [ofFloat?_eq]
  exact congrArg Parts.ofUnpacked? (unpack_pack_normal .positive h bits low high)

/-- The number of bits that a whole number loses as a double: those behind the first 53. -/
def dropped (n : Nat) : Nat :=
  n.log2 - 52

theorem dropped_le (v : UInt64) : dropped v.toNat ≤ 11 := by
  by_cases h : v.toNat = 0
  · rw [h]
    decide
  · have hlog := (Nat.log2_lt h).mpr v.toNat_lt
    rw [dropped]
    omega

/-- A whole number is brought to 53 bits before it is rounded. -/
theorem toFloat_eq {v : UInt64} (h : v.toNat ≠ 0) :
    v.toFloat = .ofModel (.pack (roundWithAccuracy .binary64 .positive
      (v.toNat * 2 ^ (52 - v.toNat.log2)) (-((52 - v.toNat.log2 : Nat) : Int)) .exact)) := by
  have hpos : compare (v.toNat : Int) 0 = .gt := Int.compare_eq_gt.mpr (by omega)
  have hshift : (0 - Format.binary64.targetExponent (totalExponent v.toNat 0)).toNat =
      52 - v.toNat.log2 := by
    rw [targetExponent_eq, target]
    omega
  show Float.ofModel (.pack (UnpackedFloat.normalize .binary64 (v.toNat : Int) 0 .positive)) = _
  rw [UnpackedFloat.normalize, hpos]
  dsimp only
  rw [UnpackedFloat.round, decreaseExponent, Int.toNat_natCast, hshift, Nat.shiftLeft_eq,
    Int.zero_sub]

/-- The parts of a whole number as a double. -/
theorem ofFloat?_toFloat {v : UInt64} (h : v.toNat ≠ 0) : ∃ m e,
    Parts.ofFloat? v.toFloat = some ⟨false, m, e⟩ ∧ m.log2 = 52 ∧ -52 ≤ e ∧ e ≤ 12 ∧
      (m : ℚ) * 2 ^ e =
        roundQuotient v.toNat (2 ^ dropped v.toNat) * 2 ^ dropped v.toNat ∧
      (0 < dropped v.toNat → Even (roundQuotient v.toNat (2 ^ dropped v.toNat)) → Even m) := by
  have hfloat := toFloat_eq h
  have hdropped := dropped_le v
  obtain ⟨n, hn⟩ : ∃ n, n = v.toNat := ⟨_, rfl⟩
  rw [← hn] at h hdropped hfloat ⊢
  obtain ⟨j, hj⟩ : ∃ j, j = 52 - n.log2 := ⟨_, rfl⟩
  obtain ⟨k, hk⟩ : ∃ k, k = dropped n := ⟨_, rfl⟩
  -- a short number is filled up to 53 bits, or a long one is cut, but not both
  have hshifts : j = 0 ∨ k = 0 := by
    rw [dropped] at hk
    omega
  have hbits : (n * 2 ^ j).log2 = 52 + k := by
    rw [log2_mul_two_pow h, hj, hk, dropped]
    omega
  rw [← hk] at hdropped ⊢
  obtain ⟨m, e, hm, hround, hmbits, hparts⟩ :=
    roundWithAccuracy_exact .positive (e := -(j : Int)) hbits (by omega)
  rw [← hj, hround] at hfloat
  have hvalue : (roundQuotient (n * 2 ^ j) (2 ^ k) : ℚ) * 2 ^ (-(j : ℤ) + k) =
      roundQuotient n (2 ^ k) * 2 ^ k := by
    obtain rfl | rfl := hshifts
    · simp
    · simp [roundQuotient_one]
  have hrange : -52 ≤ e ∧ e ≤ 12 := by omega
  refine ⟨m, e, ?_, hmbits, hrange.1, hrange.2, ?_, fun hpos heven => ?_⟩
  · rw [hfloat]
    exact ofFloat?_pack hm hmbits (by omega) (by omega)
  · rw [← hvalue]
    obtain ⟨rfl, rfl⟩ | ⟨hcarry, rfl, rfl⟩ := hparts
    · rfl
    · rw [hcarry, zpow_add₀ two_ne_zero]
      push_cast
      ring
  · obtain rfl : j = 0 := hshifts.resolve_right (by omega)
    rw [pow_zero, Nat.mul_one] at hparts
    obtain ⟨rfl, -⟩ | ⟨-, rfl, -⟩ := hparts
    · exact heven
    · decide

/-- What a whole number is as a double. -/
theorem valueOf_toFloat (v : UInt64) : valueOf v.toFloat =
    roundQuotient v.toNat (2 ^ dropped v.toNat) * 2 ^ dropped v.toNat := by
  by_cases h : v.toNat = 0
  · obtain rfl : v = 0 := UInt64.toNat_inj.mp h
    have hzero : Parts.ofFloat? (0 : UInt64).toFloat = some ⟨false, 0, -1074⟩ := by
      decide +kernel
    rw [valueOf_eq hzero]
    simp [Parts.value, roundQuotient]
  · obtain ⟨m, e, hparts, -, -, -, hvalue, -⟩ := ofFloat?_toFloat h
    rw [valueOf_eq hparts, ← hvalue]
    simp [Parts.value]

theorem isNearest_toFloat (v : UInt64) :
    IsNearest (2 ^ dropped v.toNat) v.toNat (roundQuotient v.toNat (2 ^ dropped v.toNat)) := by
  have hpos : (0 : ℚ) < 2 ^ dropped v.toNat := pow_pos two_pos _
  have hnearest := (isNearest_roundQuotient v.toNat (Nat.two_pow_pos (dropped v.toNat))).scale hpos
  have hcancel : (2 : ℚ) ^ dropped v.toNat * (v.toNat / (2 ^ dropped v.toNat : Nat)) = v.toNat := by
    push_cast
    field_simp
  rw [mul_one, hcancel] at hnearest
  exact hnearest

theorem close_toFloat (v : UInt64) : |valueOf v.toFloat - v.toNat| ≤ 1024 := by
  have hhalf := (isNearest_toFloat v).near_half (pow_pos two_pos _)
  have hgrain : (2 : ℚ) ^ dropped v.toNat ≤ 2 ^ 11 := pow_le_pow_right₀ one_le_two (dropped_le v)
  rw [valueOf_toFloat, ← Int.cast_natCast (roundQuotient _ _)]
  linarith

theorem valueOf_toFloat_exact {v : UInt64} (h : v.toNat.log2 ≤ 52) :
    valueOf v.toFloat = v.toNat := by
  have hnone : dropped v.toNat = 0 := Nat.sub_eq_zero_of_le h
  rw [valueOf_toFloat, hnone, pow_zero, pow_zero, roundQuotient_one, mul_one]

/-! ### The nearest double -/

theorem two_pow_dropped_le {n : Nat} (h : 0 < dropped n) : 2 ^ (52 + dropped n) ≤ n := by
  have hne : n ≠ 0 := by
    rintro rfl
    exact absurd h (by decide)
  have hlog : 52 + dropped n = n.log2 := by
    rw [dropped] at *
    omega
  rw [hlog]
  exact Nat.log2_self_le hne

/-- From 2^(52 + k) on doubles are multiples of 2^k, so of a number that is this large every double
is a multiple or further away than a multiple. -/
theorem exists_multiple {y : Float} (finite : y.isFinite = true) {q : ℚ} {k : ℕ}
    (h : 2 ^ 52 * 2 ^ k ≤ q) :
    ∃ j : ℤ, valueOf y = j * 2 ^ k ∨ |j * 2 ^ k - q| < |valueOf y - q| := by
  obtain ⟨p, hp⟩ := exists_parts finite
  have hcanonical := isCanonical_of_ofFloat? hp
  rw [valueOf_eq hp]
  by_cases hexponent : (k : ℤ) ≤ p.exponent
  · obtain ⟨d, hd⟩ := Int.eq_ofNat_of_zero_le (Int.sub_nonneg.mpr hexponent)
    refine ⟨(if p.negative then -1 else 1) * p.significand * 2 ^ d, .inl ?_⟩
    rw [Parts.value, eq_add_of_sub_eq hd, zpow_add₀ two_ne_zero]
    push_cast
    rw [zpow_natCast, zpow_natCast]
    ring
  · refine ⟨2 ^ 52, .inr ?_⟩
    have hsize := hcanonical.size_lt (not_le.mp hexponent)
    rw [zpow_natCast] at hsize
    have hnonneg := p.size_nonneg
    have hvalue : p.value ≤ p.size := by
      rw [Parts.value_eq]
      split <;> linarith
    push_cast
    rw [abs_of_nonpos (by linarith), abs_of_nonpos (by linarith)]
    linarith

/-- A whole number is stored as the nearest double. -/
theorem isNearestDouble_toFloat (v : UInt64) : IsNearestDouble v.toNat v.toFloat := by
  have finite := isFinite_toFloat v
  obtain hfits | hdrops := Nat.eq_zero_or_pos (dropped v.toNat)
  · have hexact := valueOf_toFloat_exact (Nat.le_of_sub_eq_zero hfits)
    refine ⟨finite, fun y _ => ?_, fun y _ hne htie => absurd ?_ hne⟩
    · rw [hexact, sub_self, abs_zero]
      exact abs_nonneg _
    · rw [hexact, sub_self, abs_zero, abs_eq_zero, sub_eq_zero] at htie
      rw [hexact, htie]
  · have hle := two_pow_dropped_le hdrops
    have hne : v.toNat ≠ 0 := Nat.ne_of_gt (Nat.lt_of_lt_of_le (Nat.two_pow_pos _) hle)
    have hlarge : (2 : ℚ) ^ 52 * 2 ^ dropped v.toNat ≤ v.toNat := by
      rw [← pow_add]
      exact_mod_cast hle
    have hnearest := isNearest_toFloat v
    have hvalue : valueOf v.toFloat =
        (roundQuotient v.toNat (2 ^ dropped v.toNat) : ℤ) * 2 ^ dropped v.toNat := by
      rw [valueOf_toFloat, Int.cast_natCast]
    have hmultiple {y : Float} (hy : y.isFinite = true) : ∃ j : ℤ,
        |valueOf v.toFloat - v.toNat| ≤ |(j : ℚ) * 2 ^ dropped v.toNat - v.toNat| ∧
          (valueOf y = j * 2 ^ dropped v.toNat ∨
            |(j : ℚ) * 2 ^ dropped v.toNat - v.toNat| < |valueOf y - v.toNat|) := by
      obtain ⟨j, hj⟩ := exists_multiple hy hlarge
      exact ⟨j, hvalue ▸ hnearest.near j, hj⟩
    refine ⟨finite, fun y hy => ?_, fun y hy hother htie p hp => ?_⟩
    · obtain ⟨j, hnear, heq | hfar⟩ := hmultiple hy
      · exact heq ▸ hnear
      · exact hnear.trans hfar.le
    · obtain ⟨j, hnear, heq | hfar⟩ := hmultiple hy
      · have hne' : j ≠ roundQuotient v.toNat (2 ^ dropped v.toNat) := by
          rintro rfl
          exact hother (heq.trans hvalue.symm)
        have heven := hnearest.even j hne' (by rw [← heq, ← hvalue, htie])
        obtain ⟨m, e, hparts, -, -, -, -, hkept⟩ := ofFloat?_toFloat hne
        obtain rfl := Option.some.inj (hp.symm.trans hparts)
        exact hkept hdrops (by exact_mod_cast heven)
      · exact absurd hnear (not_le_of_gt (htie ▸ hfar))

/-- What is no nearer to `b` than to `a` is not on the side of `b` from the middle. -/
theorem mul_midpoint_nonpos {a b q : ℚ} (h : |a - q| ≤ |b - q|) :
    (a - b) * (a + b - 2 * q) ≤ 0 := by
  have hsq := sq_le_sq.mpr h
  linarith

theorem valueOf_toFloat_mono {v w : UInt64} (h : v ≤ w) :
    valueOf v.toFloat ≤ valueOf w.toFloat := by
  by_contra hlt
  have hpos := sub_pos.mpr (not_le.mp hlt)
  have hvw : (v.toNat : ℚ) ≤ w.toNat := by exact_mod_cast UInt64.le_iff_toNat_le.mp h
  have hv := mul_midpoint_nonpos ((isNearestDouble_toFloat v).near _ (isFinite_toFloat w))
  have hw := mul_midpoint_nonpos ((isNearestDouble_toFloat w).near _ (isFinite_toFloat v))
  have hv' : valueOf v.toFloat + valueOf w.toFloat - 2 * v.toNat ≤ 0 :=
    nonpos_of_mul_nonpos_right hv hpos
  have hw' : 2 * (w.toNat : ℚ) - (valueOf v.toFloat + valueOf w.toFloat) ≤ 0 :=
    nonpos_of_mul_nonpos_right (by linarith) hpos
  have heq : (v.toNat : ℚ) = w.toNat := by linarith
  obtain rfl : v = w := UInt64.toNat_inj.mp (by exact_mod_cast heq)
  exact hlt le_rfl

/-! ### Division by a power of two -/

theorem unpack_of_ofFloat? {x : Float} {m : Nat} {e : Int}
    (h : Parts.ofFloat? x = some ⟨false, m, e⟩) (hm : 0 < m) :
    x.toModel.unpack = .finite .positive m e hm := by
  rw [ofFloat?_eq] at h
  cases hu : x.toModel.unpack with
  | notANumber | infinity =>
    rw [hu] at h
    cases h
  | zero s =>
    rw [hu] at h
    have hzero : 0 = m := congrArg Parts.significand (Option.some.inj h)
    exact absurd hzero (Nat.ne_of_lt hm)
  | finite s m' e' hm' =>
    rw [hu] at h
    cases s with
    | negative => cases h
    | positive =>
      cases h
      rfl

/-- The quotient of a significand by the power of two with as many bits is exact. -/
theorem div_eq_round {m : Nat} {e f : Int} (hm : 0 < m) (bits : m.log2 = 52)
    (low : -1000 ≤ e - f) :
    div .binary64 (.finite .positive m e hm) (.finite .positive (2 ^ 52) f (Nat.two_pow_pos 52)) =
      roundWithAccuracy .binary64 .positive (2 * m) (e - f - 53) .exact := by
  have htarget : min (e - f) (Format.binary64.targetExponent
      (totalExponent m e - totalExponent (2 ^ 52) f)) = e - f - 53 := by
    show min (e - f) (max (((m.log2 : Int) + 1 + e - ((2 ^ 52 : Nat).log2 + 1 + f)) - 53)
      (-1074)) = _
    rw [bits, Nat.log2_two_pow]
    omega
  have hshift : (e - f - (e - f - 53)).toNat = 53 := by omega
  have hquotient : m <<< 53 = 2 * m * 2 ^ 52 := by
    rw [Nat.shiftLeft_eq]
    ring
  show roundWithAccuracy .binary64 .positive (m <<< (e - f - min (e - f) _).toNat / 2 ^ 52)
    (min (e - f) _) (accuracyOfFraction (m <<< (e - f - min (e - f) _).toNat % 2 ^ 52) (2 ^ 52)) = _
  rw [htarget, hshift, hquotient, Nat.mul_div_cancel _ (Nat.two_pow_pos 52), Nat.mul_mod_left]
  rfl

/-- A double is divided by a power of two without rounding. -/
theorem ofFloat?_div_two_pow {x y : Float} {m : Nat} {e f : Int}
    (hx : Parts.ofFloat? x = some ⟨false, m, e⟩) (bits : m.log2 = 52)
    (hy : Parts.ofFloat? y = some ⟨false, 2 ^ 52, f⟩) (low : -1000 ≤ e - f) (high : e - f ≤ 1000) :
    Parts.ofFloat? (x / y) = some ⟨false, m, e - f - 52⟩ := by
  have hne : m ≠ 0 := by
    rintro rfl
    exact absurd bits (by decide)
  have hm := Nat.pos_of_ne_zero hne
  have hbits : (2 * m).log2 = 52 + 1 := by
    rw [Nat.log2_two_mul hne, bits]
  have hquotient : roundQuotient (2 * m) (2 ^ 1) = m := by
    simp [roundQuotient]
  obtain ⟨m', e', hm', hround, hbits', hparts⟩ :=
    roundWithAccuracy_exact .positive (e := e - f - 53) hbits (by omega)
  have hlt : m < 2 ^ 53 := (Nat.log2_lt hne).mp (by omega)
  rw [hquotient] at hparts
  obtain ⟨rfl, rfl⟩ : m' = m ∧ e' = e - f - 52 := by omega
  show Parts.ofFloat? (.ofModel (.pack (div .binary64 x.toModel.unpack y.toModel.unpack))) = _
  rw [unpack_of_ofFloat? hx hm, unpack_of_ofFloat? hy (Nat.two_pow_pos 52),
    div_eq_round hm bits low, hround]
  exact ofFloat?_pack hm' hbits' (by omega) (by omega)

theorem valueOf_div_two_pow {x y : Float} {m : Nat} {e f : Int}
    (hx : Parts.ofFloat? x = some ⟨false, m, e⟩) (bits : m.log2 = 52)
    (hy : Parts.ofFloat? y = some ⟨false, 2 ^ 52, f⟩) (low : -1000 ≤ e - f) (high : e - f ≤ 1000) :
    IsUnsigned (x / y) ∧ valueOf (x / y) = valueOf x / valueOf y := by
  have hquotient := ofFloat?_div_two_pow hx bits hy low high
  refine ⟨⟨_, hquotient, rfl⟩, ?_⟩
  have hexponent : (2 : ℚ) ^ (e - f - 52) = 2 ^ e / (2 ^ 52 * 2 ^ f) := by
    rw [zpow_sub₀ two_ne_zero, zpow_sub₀ two_ne_zero, div_div, mul_comm (2 ^ f : ℚ)]
    rfl
  rw [valueOf_eq hquotient, valueOf_eq hx, valueOf_eq hy]
  simp only [Parts.value, Bool.false_eq_true, if_false, one_mul]
  rw [hexponent, mul_div_assoc]
  norm_num

end HostAlert.Decimal
