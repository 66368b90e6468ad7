import HostAlert.Text.Numeral
import HostAlert.Time.Instant

/-!
# RFC 3339 timestamps

`Date.ofDays` finds the proleptic Gregorian date of a day counted from 1970-01-01.
`Instant.rfc3339` writes an instant with the fewest of 0, 3, 6 or 9 fraction digits that are
exact; a year outside 0 to 9999 carries its sign.
-/

namespace HostAlert

structure Date where
  year : Int
  month : Nat
  day : Nat
  deriving DecidableEq

namespace Date

/-- The date of a day counted from 1970-01-01. Years are counted from March here, in eras of 400
years, so that the leap day is the last day of its year. -/
def ofDays (days : Int) : Date :=
  let shifted := days + 719468
  let era := shifted.fdiv 146097
  let dayOfEra := (shifted.fmod 146097).toNat
  let yearOfEra := (dayOfEra - dayOfEra / 1460 + dayOfEra / 36524 - dayOfEra / 146096) / 365
  let dayOfYear := dayOfEra - (365 * yearOfEra + yearOfEra / 4 - yearOfEra / 100)
  let shiftedMonth := (5 * dayOfYear + 2) / 153
  let day := dayOfYear - (153 * shiftedMonth + 2) / 5 + 1
  let month := if shiftedMonth < 10 then shiftedMonth + 3 else shiftedMonth - 9
  let year := era * 400 + (yearOfEra : Int) + (if month ≤ 2 then 1 else 0)
  ⟨year, month, day⟩

example : ofDays 0 = ⟨1970, 1, 1⟩ := by decide
example : ofDays 11016 = ⟨2000, 2, 29⟩ := by decide
example : ofDays (-719529) = ⟨-1, 12, 31⟩ := by decide

/-- A year in four digits, or with its sign and at least four digits. -/
def yearText (year : Int) : List Char :=
  if 0 ≤ year ∧ year ≤ 9999 then Text.padded 4 year.toNat
  else (if year < 0 then '-' else '+') :: Text.padded 4 year.natAbs

end Date

/-- The digits after the seconds: none, or a point and the fewest of 3, 6 or 9 that are exact. -/
def fractionText (nanos : Nat) : List Char :=
  if nanos = 0 then []
  else if nanos % 1000000 = 0 then '.' :: Text.padded 3 (nanos / 1000000)
  else if nanos % 1000 = 0 then '.' :: Text.padded 6 (nanos / 1000)
  else '.' :: Text.padded 9 nanos

/-- The instant as an RFC 3339 timestamp whose zone, which is UTC, is written as given. -/
def Instant.rfc3339 (t : Instant) (zone : String) : String :=
  let seconds := t.nanos.fdiv 1000000000
  let nanos := (t.nanos.fmod 1000000000).toNat
  let date := Date.ofDays (seconds.fdiv 86400)
  let ofDay := (seconds.fmod 86400).toNat
  String.ofList <|
    Date.yearText date.year ++ '-' :: Text.padded 2 date.month ++ '-' :: Text.padded 2 date.day ++
      'T' :: Text.padded 2 (ofDay / 3600) ++ ':' :: Text.padded 2 (ofDay / 60 % 60) ++
      ':' :: Text.padded 2 (ofDay % 60) ++ fractionText nanos ++ zone.toList

end HostAlert
