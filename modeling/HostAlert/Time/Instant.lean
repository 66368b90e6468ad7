import HostAlert.Time.Span

/-!
# Instants

An `Instant` is a point on the UTC time line in nanoseconds since the start of 1970.
-/

namespace HostAlert

/-- A point in time, in nanoseconds since 1970-01-01T00:00:00Z. -/
structure Instant where
  nanos : Int
  deriving DecidableEq, Inhabited

namespace Instant

def ofParts (seconds : Int) (nanos : Nat) : Instant := ⟨seconds * 1000000000 + nanos⟩

/-- The time passed from `start` to `stop`; nothing when `stop` comes first. -/
def elapsed (start stop : Instant) : Span := ⟨(stop.nanos - start.nanos).toNat⟩

def after (t : Instant) (d : Span) : Instant := ⟨t.nanos + d.nanos⟩

instance : LE Instant := ⟨fun a b => a.nanos ≤ b.nanos⟩

instance (a b : Instant) : Decidable (a ≤ b) := inferInstanceAs (Decidable (a.nanos ≤ b.nanos))

theorem le_def {a b : Instant} : a ≤ b ↔ a.nanos ≤ b.nanos := Iff.rfl

/-- At least `d` has passed exactly when the later instant has been reached, or nothing was asked
for. -/
theorem le_elapsed_iff {d : Span} {a b : Instant} :
    d ≤ elapsed a b ↔ a.after d ≤ b ∨ d.nanos = 0 := by
  simp only [Span.le_def, elapsed, after, le_def]
  omega

end Instant

end HostAlert
