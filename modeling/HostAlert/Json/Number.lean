import HostAlert.Json.Token

/-!
# Numbers of JSON texts

A `Numeral` is a number as written; `Numeral.number?` is its value. A numeral without point and
exponent that fits into 64 bits is a whole number, every other one is a double.

The double of a numeral is computed from a significand below 2^64 and a power of ten, with one
rounding each for the significand, the power and their product or quotient. Digits that do not fit
into the significand are dropped.
-/

namespace HostAlert.Json

inductive Number
  | whole (n : Int)
  | double (x : Float)

/-- A number as written: the digits before and after the point, and the power of ten. -/
structure Numeral where
  negative : Bool
  digits : List Nat
  fraction : Option (List Nat)
  power : Option Int
  deriving DecidableEq

def isDigit (b : UInt8) : Bool :=
  0x30 ≤ b && b ≤ 0x39

def digitsOf (s : Bytes) : List Nat :=
  (s.takeWhile isDigit).map fun b => b.toNat - 0x30

def afterDigits (s : Bytes) : Bytes :=
  s.dropWhile isDigit

def someDigits : Reader (List Nat) := fun s =>
  match s with
  | [] => .error .truncated
  | b :: _ => if isDigit b then .ok (digitsOf s, afterDigits s) else .error .malformed

/-- Reads the digits before the point; more than one never start with zero. -/
def leadingDigits : Reader (List Nat) := fun s => do
  let (digits, rest) ← someDigits s
  if digits.head? = some 0 ∧ 1 < digits.length then .error .malformed else .ok (digits, rest)

def fraction : Reader (Option (List Nat)) := fun s =>
  match s with
  | [] => .ok (none, [])
  | b :: r =>
    if b = byte '.' then do
      let (digits, rest) ← someDigits r
      .ok (some digits, rest)
    else .ok (none, s)

def natOfDigits (digits : List Nat) : Nat :=
  digits.foldl (fun n d => n * 10 + d) 0

def power : Reader (Option Int) := fun s =>
  match s with
  | [] => .ok (none, [])
  | b :: r =>
    if b = byte 'e' ∨ b = byte 'E' then
      let negative := r.head? = some (byte '-')
      let unsigned := if negative ∨ r.head? = some (byte '+') then r.tail else r
      do
        let (digits, rest) ← someDigits unsigned
        let n : Int := natOfDigits digits
        .ok (some (if negative then -n else n), rest)
    else .ok (none, s)

def numeral : Reader Numeral := fun s => do
  let negative := s.head? = some (byte '-')
  let (digits, s) ← leadingDigits (if negative then s.tail else s)
  let (fraction, s) ← fraction s
  let (power, s) ← power s
  .ok (⟨negative, digits, fraction, power⟩, s)

/-- Whether one more digit still fits into 64 bits. -/
def fits (n d : Nat) : Bool :=
  n * 10 + d < UInt64.size

/-- The digits before the point as a significand, and the number of digits that were dropped:
those from the first that does not fit. -/
def Numeral.wholePart (digits : List Nat) : Nat × Nat :=
  digits.foldl
    (fun (n, dropped) d => if dropped = 0 ∧ fits n d then (n * 10 + d, 0) else (n, dropped + 1))
    (0, 0)

/-- Appends the digits after the point to the significand while they fit. -/
def Numeral.withFraction (n : Nat) (scale : Int) : List Nat → Nat × Int
  | [] => (n, scale)
  | d :: ds => if fits n d then withFraction (n * 10 + d) (scale - 1) ds else (n, scale)

/-- A power of ten as the nearest double. -/
def tenTo (n : Nat) : Float :=
  Float.ofScientific 1 false n

/-- The double `n · 10 ^ scale` for `n` below 2^64; none when it is too large. -/
def scaled? (n : Nat) (scale : Int) : Option Float :=
  let x := n.toUInt64.toFloat
  if scale < -616 then some 0
  else if scale < -308 then some (x / tenTo 308 / tenTo (-308 - scale).toNat)
  else if scale < 0 then some (x / tenTo (-scale).toNat)
  else if n = 0 then some 0
  else if 308 < scale then none
  else
    let y := x * tenTo scale.toNat
    if y.isInf then none else some y

/-- The value of a numeral; none when it is too large for a double. -/
def Numeral.number? (v : Numeral) : Option Number :=
  let (n, dropped) := wholePart v.digits
  let signed (x : Float) : Number := .double (if v.negative then -x else x)
  match v.fraction, v.power with
  | none, none =>
    if dropped ≠ 0 then (scaled? n dropped).map signed
    else if !v.negative then some (.whole n)
    else if n = 0 ∨ 0x8000000000000000 < n then some (signed n.toUInt64.toFloat)
    else some (.whole (-n))
  | fraction, power =>
    let (n, scale) := withFraction n dropped (fraction.getD [])
    (scaled? n (scale + power.getD 0)).map signed

def number : Reader Number := fun s => do
  let (v, rest) ← numeral s
  match v.number? with
  | some n => .ok (n, rest)
  | none => .error .malformed

/-- Passes over a number of any size. -/
def skipNumber (s : Bytes) : Except Fault Bytes :=
  match numeral s with
  | .ok (_, rest) => .ok rest
  | .error _ => .error .malformed

end HostAlert.Json
