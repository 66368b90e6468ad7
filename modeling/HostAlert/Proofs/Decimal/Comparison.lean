import HostAlert.Decimal.Double

/-!
# Comparing doubles

Swapping two doubles swaps the outcome of their comparison (`compare_swap`), so two doubles are
never in order both ways round (`not_lt_of_le`). Neither order may hold: a NaN is in none.
-/

namespace HostAlert.Decimal

open Float.Model (UnpackedFloat)
open Float.Model.UnpackedFloat (Sign)

theorem compare_swap (a b : UnpackedFloat) : b.compare a = (a.compare b).map Ordering.swap := by
  have hsign (s t : Sign) : compare t s = (compare s t).swap := by cases s <;> cases t <;> rfl
  have hsize (e e' : Int) (m m' : Nat) :
      (compare e' e).then (compare m' m) = ((compare e e').then (compare m m')).swap := by
    rw [Ordering.swap_then, Int.compare_swap, Nat.compare_swap]
  cases a with
  | notANumber => cases b <;> rfl
  | infinity s =>
    cases b with
    | infinity t => exact congrArg some (hsign s t)
    | notANumber => rfl
    | zero => cases s <;> rfl
    | finite t => cases s <;> cases t <;> rfl
  | zero =>
    cases b with
    | infinity t => cases t <;> rfl
    | notANumber => rfl
    | zero => rfl
    | finite t => cases t <;> rfl
  | finite s m e =>
    cases b with
    | infinity t => cases s <;> cases t <;> rfl
    | notANumber => cases s <;> rfl
    | zero => cases s <;> rfl
    | finite t m' e' =>
      cases s <;> cases t
      · exact congrArg (fun o => some o.swap) (hsize e e' m m')
      · rfl
      · rfl
      · exact congrArg some (hsize e e' m m')

theorem le_iff {a b : Float} :
    a ≤ b ↔ (a.toModel.unpack.compare b.toModel.unpack).any (·.isLE) = true := by
  change decide (a.toModel ≤ b.toModel) = true ↔ _
  rw [decide_eq_true_iff]
  rfl

theorem lt_iff {a b : Float} :
    a < b ↔ a.toModel.unpack.compare b.toModel.unpack = some .lt := by
  change decide (a.toModel < b.toModel) = true ↔ _
  rw [decide_eq_true_iff]
  exact beq_iff_eq

theorem not_lt_of_le {a b : Float} (h : a ≤ b) : ¬ b < a := by
  intro hlt
  rw [le_iff] at h
  rw [lt_iff, compare_swap] at hlt
  cases hc : a.toModel.unpack.compare b.toModel.unpack with
  | none => simp [hc] at hlt
  | some o =>
    rw [hc] at h hlt
    cases o <;> simp_all

theorem not_le_of_lt {a b : Float} (h : a < b) : ¬ b ≤ a :=
  fun hle => not_lt_of_le hle h

end HostAlert.Decimal
