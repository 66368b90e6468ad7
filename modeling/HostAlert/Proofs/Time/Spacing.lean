import HostAlert.Time.Instant

/-!
# Instants that keep a distance

Of instants of which each comes at least a span after every earlier one, a window of time holds
only so many (`length_le_of_spaced`).
-/

namespace HostAlert.Instant

theorem after_spaced_le {distance : Span} {t stop : Instant} {rest : List Instant}
    (spaced : (t :: rest).Pairwise fun a b => a.after distance ≤ b)
    (bounded : ∀ x ∈ t :: rest, x ≤ stop) :
    t.nanos + (rest.length * distance.nanos : Nat) ≤ stop.nanos := by
  induction rest generalizing t with
  | nil =>
    have ht := le_def.mp (bounded t List.mem_cons_self)
    simpa using ht
  | cons u rest ih =>
    obtain ⟨hfirst, hrest⟩ := List.pairwise_cons.mp spaced
    have hstep : t.nanos + distance.nanos ≤ u.nanos := le_def.mp (hfirst u List.mem_cons_self)
    have hsteps := ih hrest fun x hx => bounded x (List.mem_cons_of_mem t hx)
    rw [List.length_cons, Nat.succ_mul]
    omega

/-- A window holds one instant more than distances at most. -/
theorem length_le_of_spaced {distance window : Span} {start : Instant} {times : List Instant}
    (positive : distance.isZero = false)
    (spaced : times.Pairwise fun a b => a.after distance ≤ b)
    (within : ∀ t ∈ times, start ≤ t ∧ t ≤ start.after window) :
    times.length ≤ 1 + window.nanos / distance.nanos := by
  cases times with
  | nil => exact Nat.zero_le _
  | cons t rest =>
    have hpos : 0 < distance.nanos := by
      rw [Span.isZero, beq_eq_false_iff_ne] at positive
      omega
    have hlast := after_spaced_le spaced fun x hx => (within x hx).2
    have hfirst := le_def.mp (within t List.mem_cons_self).1
    have hfit : rest.length * distance.nanos ≤ window.nanos := by
      simp only [after] at hlast
      omega
    have hcount : rest.length ≤ window.nanos / distance.nanos :=
      (Nat.le_div_iff_mul_le hpos).mpr hfit
    rw [List.length_cons]
    omega

end HostAlert.Instant
