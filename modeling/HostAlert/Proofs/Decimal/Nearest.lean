import HostAlert.Decimal.Double
import HostAlert.Proofs.Decimal.Value

/-!
# Nearest multiples

`IsNearest grain q n` says that `n` grains are nearest to `q`, the even number of them where two are
equally near. That is at most half a grain off (`IsNearest.near_half`) and never decreases with `q`
(`IsNearest.mono`). A rounded quotient is a nearest whole number, and the tenths of a double are
nearest to its absolute value (`isNearest_tenths`).
-/

namespace HostAlert.Decimal

/-- No other number of grains is nearer to `q`, and `n` is even if another one is as near. -/
structure IsNearest (grain q : ℚ) (n : ℤ) : Prop where
  near : ∀ k : ℤ, |n * grain - q| ≤ |k * grain - q|
  even : ∀ k : ℤ, k ≠ n → |k * grain - q| = |n * grain - q| → Even n

namespace IsNearest

variable {grain p q : ℚ} {m n : ℤ}

/-- The next multiples are no nearer, so half a grain is the most that can lie between. -/
theorem near_half (hgrain : 0 < grain) (h : IsNearest grain q n) :
    |n * grain - q| ≤ grain / 2 := by
  have hup := h.near (n + 1)
  have hdown := h.near (n - 1)
  push_cast at hup hdown
  rw [abs_le]
  constructor
  · by_contra hlow
    rw [abs_of_nonpos (by linarith)] at hup
    obtain ⟨hle, -⟩ | ⟨hle, -⟩ := abs_cases ((n + 1) * grain - q) <;> linarith
  · by_contra hhigh
    rw [abs_of_nonneg (by linarith)] at hdown
    obtain ⟨hle, -⟩ | ⟨hle, -⟩ := abs_cases ((n - 1) * grain - q) <;> linarith

/-- Within half a grain nothing is nearer, and only at half a grain something is as near. -/
theorem of_near_half (near : |n * grain - q| ≤ grain / 2)
    (even : |n * grain - q| = grain / 2 → Even n) : IsNearest grain q n := by
  have hgrain : 0 ≤ grain := by linarith [abs_nonneg (n * grain - q)]
  -- another multiple is a grain or more away from this one
  have hother {k : ℤ} (hk : k ≠ n) : grain ≤ |k * grain - q| + |n * grain - q| := by
    have hone : (1 : ℚ) ≤ |(k : ℚ) - n| := by
      exact_mod_cast Int.one_le_abs (sub_ne_zero.mpr hk)
    calc grain ≤ |(k : ℚ) - n| * grain := le_mul_of_one_le_left hgrain hone
      _ = |(k * grain - q) - (n * grain - q)| := by
        rw [← abs_of_nonneg hgrain, ← abs_mul, abs_of_nonneg hgrain]
        ring_nf
      _ ≤ |k * grain - q| + |n * grain - q| := abs_sub _ _
  refine ⟨fun k => ?_, fun k hk htie => even ?_⟩
  · obtain rfl | hk := eq_or_ne k n
    · exact le_rfl
    · linarith [hother hk]
  · linarith [hother hk]

theorem mono (hgrain : 0 < grain) (hp : IsNearest grain p m) (hq : IsNearest grain q n)
    (h : p ≤ q) : m ≤ n := by
  by_contra hlt
  have hsucc : ((n : ℚ) + 1) * grain ≤ m * grain :=
    mul_le_mul_of_nonneg_right (by exact_mod_cast Int.not_le.mp hlt) hgrain.le
  have hm := abs_le.mp (hp.near_half hgrain)
  have hn := abs_le.mp (hq.near_half hgrain)
  -- then both numbers lie midway between the two multiples, which are next to each other
  have hpq : p = q := by linarith [hm.2, hn.1]
  have hmid : n * grain - q = -(grain / 2) := by linarith [hm.2, hn.1]
  have hmid' : m * grain - q = grain / 2 := by linarith [hm.2, hn.1]
  have hadjacent : m = n + 1 := by
    have heq : (m : ℚ) * grain = (n + 1) * grain := by linarith
    exact_mod_cast mul_right_cancel₀ hgrain.ne' heq
  have htie : |(m : ℚ) * grain - q| = |n * grain - q| := by
    rw [hmid, hmid', abs_neg]
  have hne : m ≠ n := by omega
  have heven := hq.even m hne htie
  have heven' := hp.even n hne.symm (by rw [hpq, htie])
  rw [Int.even_iff] at heven heven'
  omega

theorem unique (hgrain : 0 < grain) (hm : IsNearest grain q m) (hn : IsNearest grain q n) : m = n :=
  Int.le_antisymm (hm.mono hgrain hn le_rfl) (hn.mono hgrain hm le_rfl)

theorem refl (hgrain : 0 < grain) (n : ℤ) : IsNearest grain (n * grain) n := by
  refine of_near_half ?_ fun h => ?_
  · rw [sub_self, abs_zero]
    exact (half_pos hgrain).le
  · rw [sub_self, abs_zero] at h
    exact absurd h (half_pos hgrain).ne

theorem scale {c : ℚ} (hc : 0 < c) (h : IsNearest grain q n) : IsNearest (c * grain) (c * q) n := by
  have hscale (k : ℤ) : |k * (c * grain) - c * q| = c * |k * grain - q| := by
    rw [← abs_of_pos hc, ← abs_mul, abs_of_pos hc]
    ring_nf
  refine ⟨fun k => ?_, fun k hk htie => h.even k hk ?_⟩
  · rw [hscale, hscale]
    exact mul_le_mul_of_nonneg_left (h.near k) hc.le
  · rw [hscale, hscale] at htie
    exact mul_left_cancel₀ hc.ne' htie

end IsNearest

/-! ### Rounded quotients -/

theorem roundQuotient_one (n : Nat) : roundQuotient n 1 = n := by
  simp [roundQuotient, Nat.mod_one]

/-- Of two equally near numbers the even one is taken. -/
theorem roundQuotient_even {num den : Nat} (h : 0 < den)
    (tie : 2 * num + den = 2 * roundQuotient num den * den ∨
      2 * roundQuotient num den * den + den = 2 * num) : roundQuotient num den % 2 = 0 := by
  have hdiv := Nat.div_add_mod num den
  have hlt := Nat.mod_lt num h
  unfold roundQuotient at tie ⊢
  dsimp only at tie ⊢
  split at tie
  · next hup =>
    rw [if_pos hup]
    obtain hup | ⟨-, hodd⟩ := hup
    · grind
    · omega
  · next hdown =>
    rw [if_neg hdown]
    grind

theorem isNearest_roundQuotient (num : Nat) {den : Nat} (h : 0 < den) :
    IsNearest 1 (num / den) (roundQuotient num den) := by
  have hden : (0 : ℚ) < den := by exact_mod_cast h
  obtain ⟨hhigh, hlow⟩ := roundQuotient_near num h
  have hhigh' : (2 : ℚ) * num ≤ 2 * roundQuotient num den * den + den := by exact_mod_cast hhigh
  have hlow' : (2 : ℚ) * roundQuotient num den * den ≤ 2 * num + den := by exact_mod_cast hlow
  have heq : ((roundQuotient num den : ℤ) : ℚ) * 1 - num / den =
      (roundQuotient num den * den - num) / den := by
    rw [Int.cast_natCast]
    field_simp
  refine IsNearest.of_near_half ?_ fun htie => ?_
  · rw [heq, abs_div, abs_of_pos hden, div_le_iff₀ hden, abs_le]
    constructor <;> linarith
  · rw [heq, abs_div, abs_of_pos hden, div_eq_iff hden.ne'] at htie
    have heven : roundQuotient num den % 2 = 0 := by
      refine roundQuotient_even h ?_
      obtain hdiff | hdiff := (abs_eq (by positivity)).mp htie
      · left
        have hcast : (2 : ℚ) * num + den = 2 * roundQuotient num den * den := by linarith
        exact_mod_cast hcast
      · right
        have hcast : (2 : ℚ) * roundQuotient num den * den + den = 2 * num := by linarith
        exact_mod_cast hcast
    rw [Int.even_iff]
    omega

/-! ### Tenths -/

/-- The tenths of a double are nearest to its absolute value. -/
theorem isNearest_tenths (p : Parts) : IsNearest (1 / 10) p.size p.tenths := by
  unfold Parts.tenths
  split
  · next hwhole =>
    obtain ⟨k, hk⟩ := Int.eq_ofNat_of_zero_le hwhole
    have hsize : p.size = (p.significand * Nat.pow 2 p.exponent.toNat * 10 : Nat) * (1 / 10) := by
      rw [Parts.size, hk]
      simp
    rw [hsize]
    exact IsNearest.refl (by norm_num) _
  · next hfraction =>
    have hpos : 0 < Nat.pow 2 (-p.exponent).toNat := Nat.two_pow_pos _
    have hsize : p.size =
        1 / 10 * ((p.significand * 10 : Nat) / (Nat.pow 2 (-p.exponent).toNat : Nat)) := by
      obtain ⟨k, hk⟩ := Int.eq_ofNat_of_zero_le (a := -p.exponent) (by omega)
      have hexponent : p.exponent = -(k : ℤ) := by omega
      rw [Parts.size, hk, hexponent, zpow_neg, zpow_natCast, Int.toNat_natCast, Nat.pow_eq]
      push_cast
      field_simp
    have hnearest := (isNearest_roundQuotient (p.significand * 10) hpos).scale
      (c := 1 / 10) (by norm_num)
    rw [mul_one, ← hsize] at hnearest
    exact hnearest

end HostAlert.Decimal
