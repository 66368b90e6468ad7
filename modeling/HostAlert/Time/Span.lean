/-!
# Spans of time

A `Span` is a length of time in whole nanoseconds.
-/

namespace HostAlert

structure Span where
  nanos : Nat
  deriving DecidableEq, Inhabited

namespace Span

def ofMillis (n : Nat) : Span := ⟨n * 1000000⟩

def ofSeconds (n : Nat) : Span := ⟨n * 1000000000⟩

def ofParts (seconds nanos : Nat) : Span := ⟨seconds * 1000000000 + nanos⟩

def millis (d : Span) : Nat := d.nanos / 1000000

def seconds (d : Span) : Nat := d.nanos / 1000000000

def subsecond (d : Span) : Nat := d.nanos % 1000000000

instance : LE Span := ⟨fun a b => a.nanos ≤ b.nanos⟩

instance (a b : Span) : Decidable (a ≤ b) := inferInstanceAs (Decidable (a.nanos ≤ b.nanos))

instance : LT Span := ⟨fun a b => a.nanos < b.nanos⟩

instance (a b : Span) : Decidable (a < b) := inferInstanceAs (Decidable (a.nanos < b.nanos))

def isZero (d : Span) : Bool := d.nanos == 0

theorem le_def {a b : Span} : a ≤ b ↔ a.nanos ≤ b.nanos := Iff.rfl

theorem lt_def {a b : Span} : a < b ↔ a.nanos < b.nanos := Iff.rfl

@[simp] theorem millis_ofMillis (n : Nat) : (ofMillis n).millis = n := by
  simp [ofMillis, millis]

end Span

end HostAlert
