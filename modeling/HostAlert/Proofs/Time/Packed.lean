import HostAlert.Time.Calendar
import HostAlert.Time.Instant

/-!
# Instants and spans in words

A clock keeps the whole seconds of an instant in a signed word of 64 bits and the nanoseconds beyond
them in a second word; the seconds of a span are unsigned. A difference borrows a second where the
nanoseconds need one, and a negative difference is no time at all. Within the years of the calendar
nothing wraps around: the words tell the time passed to the nanosecond (`span_elapsed`), and they
compare as the spans do (`le_iff_span`).
-/

namespace HostAlert

def firstSecond : Int := -8334601228800

def lastSecond : Int := 8210266876799

example : Date.ofDays (firstSecond / 86400) = ⟨-262143, 1, 1⟩ := by decide
example : Date.ofDays (lastSecond / 86400) = ⟨262142, 12, 31⟩ := by decide

/-- An instant in two words; its nanoseconds are less than a second. -/
structure PackedInstant where
  seconds : Int64
  subsecond : UInt32
  first_le : firstSecond ≤ seconds.toInt
  le_last : seconds.toInt ≤ lastSecond
  subsecond_lt : subsecond.toNat < 1000000000

structure PackedSpan where
  seconds : UInt64
  subsecond : UInt32
  subsecond_lt : subsecond.toNat < 1000000000

namespace PackedSpan

def span (d : PackedSpan) : Span := .ofParts d.seconds.toNat d.subsecond.toNat

def zero : PackedSpan := ⟨0, 0, by decide⟩

/-- Words are compared one by one. -/
instance : LE PackedSpan :=
  ⟨fun a b => a.seconds < b.seconds ∨ a.seconds = b.seconds ∧ a.subsecond ≤ b.subsecond⟩

theorem le_iff_span {a b : PackedSpan} : a ≤ b ↔ a.span ≤ b.span := by
  have ha := a.subsecond_lt
  have hb := b.subsecond_lt
  show a.seconds < b.seconds ∨ a.seconds = b.seconds ∧ a.subsecond ≤ b.subsecond ↔ _
  rw [UInt64.lt_iff_toNat_lt, ← UInt64.toNat_inj, UInt32.le_iff_toNat_le, Span.le_def, span, span,
    Span.ofParts, Span.ofParts]
  dsimp only
  omega

end PackedSpan

/-- The difference of two instants: its seconds are signed, its nanoseconds count upwards. -/
structure PackedDifference where
  seconds : Int64
  subsecond : UInt32
  subsecond_lt : subsecond.toNat < 1000000000

/-- The difference as a span, unless it is negative. -/
def PackedDifference.span? (d : PackedDifference) : Option PackedSpan :=
  if d.seconds < 0 then none else some ⟨d.seconds.toUInt64, d.subsecond, d.subsecond_lt⟩

namespace PackedInstant

def instant (t : PackedInstant) : Instant := .ofParts t.seconds.toInt t.subsecond.toNat

theorem toNat_borrowed {a b : UInt32} (ha : a.toNat < 1000000000) (hb : b.toNat < 1000000000) :
    (a + 1000000000 - b).toNat = a.toNat + 1000000000 - b.toNat := by
  have hsum : (a + 1000000000).toNat = a.toNat + 1000000000 := by
    rw [UInt32.toNat_add]
    show (a.toNat + 1000000000) % 4294967296 = _
    omega
  have hle : b ≤ a + 1000000000 := UInt32.le_iff_toNat_le.mpr (by omega)
  rw [UInt32.toNat_sub_of_le _ _ hle, hsum]

/-- The later instant less the earlier one, word by word, with a second borrowed where the
nanoseconds need one. -/
def sub (stop start : PackedInstant) : PackedDifference :=
  if h : stop.subsecond < start.subsecond then
    ⟨stop.seconds - start.seconds - 1, stop.subsecond + 1000000000 - start.subsecond, by
      have hlt := UInt32.lt_iff_toNat_lt.mp h
      rw [toNat_borrowed stop.subsecond_lt start.subsecond_lt]
      omega⟩
  else
    ⟨stop.seconds - start.seconds, stop.subsecond - start.subsecond, by
      have hlt := stop.subsecond_lt
      rw [UInt32.toNat_sub_of_le _ _ (UInt32.not_lt.mp h)]
      omega⟩

/-- The time passed, or none when the clock was set back in between. -/
def elapsed (start stop : PackedInstant) : PackedSpan :=
  (stop.sub start).span?.getD .zero

/-- Instants of the calendar are so close together that the difference of their seconds fits. -/
theorem toInt_sub_seconds (a b : PackedInstant) :
    (a.seconds - b.seconds).toInt = a.seconds.toInt - b.seconds.toInt := by
  have ha := And.intro a.first_le a.le_last
  have hb := And.intro b.first_le b.le_last
  rw [firstSecond, lastSecond] at ha hb
  rw [Int64.toInt_sub, Int.bmod_eq_of_le (by omega) (by omega)]

/-- The words of a difference hold it to the nanosecond. -/
theorem sub_exact (stop start : PackedInstant) :
    (stop.sub start).seconds.toInt * 1000000000 + (stop.sub start).subsecond.toNat =
      stop.instant.nanos - start.instant.nanos := by
  have hseconds := toInt_sub_seconds stop start
  have hstop := And.intro stop.first_le stop.le_last
  have hstart := And.intro start.first_le start.le_last
  rw [firstSecond, lastSecond] at hstop hstart
  simp only [instant, Instant.ofParts]
  unfold sub
  split
  · next hborrow =>
    have hone : (stop.seconds - start.seconds - 1).toInt =
        stop.seconds.toInt - start.seconds.toInt - 1 := by
      rw [Int64.toInt_sub, hseconds, Int64.toInt_one, Int.bmod_eq_of_le (by omega) (by omega)]
    have hnanos := toNat_borrowed stop.subsecond_lt start.subsecond_lt
    have hlt := start.subsecond_lt
    rw [hone, hnanos]
    omega
  · next hborrow =>
    have hle := UInt32.not_lt.mp hborrow
    have hnat := UInt32.le_iff_toNat_le.mp hle
    rw [hseconds, UInt32.toNat_sub_of_le _ _ hle]
    omega

theorem span_elapsed (start stop : PackedInstant) :
    (start.elapsed stop).span = start.instant.elapsed stop.instant := by
  have hexact := sub_exact stop start
  have hsubsecond := (stop.sub start).subsecond_lt
  rw [elapsed, PackedDifference.span?, Instant.elapsed]
  split
  · next hnegative =>
    -- the clock was set back
    rw [Int64.lt_iff_toInt_lt, Int64.toInt_zero] at hnegative
    have hnone : (stop.instant.nanos - start.instant.nanos).toNat = 0 := by omega
    rw [hnone]
    rfl
  · next hnonneg =>
    have hle : 0 ≤ (stop.sub start).seconds := Int64.not_lt.mp hnonneg
    have hcast := Int64.toInt_eq_toNatClampNeg hle
    simp only [Option.getD_some, PackedSpan.span, Span.ofParts]
    rw [Int64.toNat_toUInt64_of_le hle, ← hexact, hcast]
    congr 1

end PackedInstant

end HostAlert
