import HostAlert.Decimal.Double
import HostAlert.Text.Numeral

/-!
# Amounts in messages

Percentages, byte sizes and uptimes as messages show them. A size is shown in the unit chosen by
`chooseUnit`; a pair of sizes is shown in the unit of the total.
-/

namespace HostAlert.Message

/-- A percentage; a value that is no number is a dash, a negative one is zero. -/
def percentage (x : Float) : String :=
  if x.isFinite then Decimal.shortTenths (if x ≤ 0 then 0 else x) ++ "%" else "-"

/-- The units of byte sizes, each 1024 of the one before. -/
def byteUnits : List String := ["B", "KB", "MB", "GB", "TB", "PB"]

def largestUnit : Nat := byteUnits.length - 1

/-- The unit in which `n` is less than 1024, at most `room` units up. -/
def unitWithin : (room : Nat) → (n : Nat) → Nat
  | 0, _ => 0
  | room + 1, n => if n < 1024 then 0 else unitWithin room (n / 1024) + 1

/-- The unit in which a size is shown. -/
def chooseUnit (v : UInt64) : Nat :=
  unitWithin largestUnit v.toNat

theorem unitWithin_le (room n : Nat) : unitWithin room n ≤ room := by
  induction room generalizing n with
  | zero => simp [unitWithin]
  | succ room ih =>
    unfold unitWithin
    split
    · omega
    · have := ih (n / 1024)
      omega

/-- The number of bytes in one of a unit, as a double. -/
def unitSize (unit : Nat) : Float :=
  (Nat.pow 1024 unit).toUInt64.toFloat

/-- A size in a unit: whole bytes with grouped digits, or at most one decimal. -/
def bytesIn (v : UInt64) (unit : Nat) : String :=
  let unit := min unit largestUnit
  let shown :=
    if unit = 0 then Text.groupedNat v.toNat else Decimal.shortTenths (v.toFloat / unitSize unit)
  shown ++ " " ++ byteUnits.getD unit ""

def bytes (v : UInt64) : String :=
  bytesIn v (chooseUnit v)

/-- The part and the total, both in the unit of the total; a dash when there is no total. -/
def capacity (current total : UInt64) : String :=
  if total = 0 then "-"
  else bytesIn current (chooseUnit total) ++ " / " ++ bytesIn total (chooseUnit total)

/-- As `capacity`, with the percentage in use. -/
def usage (used total : UInt64) (percent : Float) : String :=
  if total = 0 then "-" else capacity used total ++ " (" ++ percentage percent ++ ")"

/-- Days, hours and minutes. Days are left out while zero, hours only while both are zero; no time
at all is the empty text. -/
def uptime (seconds : UInt64) : String :=
  let s := seconds.toNat
  let days := s / 86400
  let hours := s % 86400 / 3600
  let minutes := s % 3600 / 60
  let part (n : Nat) (unit : String) : String := String.ofList (Text.decimal n) ++ unit
  if s = 0 then ""
  else if 0 < days then part days "d " ++ part hours "h " ++ part minutes "m"
  else if 0 < hours then part hours "h " ++ part minutes "m"
  else part minutes "m"

end HostAlert.Message
