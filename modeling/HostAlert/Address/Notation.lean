import HostAlert.Address.Ip
import HostAlert.Text.Numeral

/-!
# Texts of IP addresses

`Ip.toText` writes an address: IPv4 in dotted decimals; IPv6 in lower-case groups with the first
longest run of two or more zero groups left out, and a mapped IPv4 address in dotted decimals.
`Ip.ofText?` reads an address. Decimal numbers have no leading zeros; groups have one to four
hexadecimal digits; two colons stand for one or more zero groups; the last two groups may be dotted
decimals.
-/

namespace HostAlert.Address

/-! ### Writing -/

def V4.toText (a : V4) : List Char :=
  Text.decimal a.b0.toNat ++ '.' :: Text.decimal a.b1.toNat ++ '.' :: Text.decimal a.b2.toNat ++
    '.' :: Text.decimal a.b3.toNat

def groupsText (groups : List UInt16) : List Char :=
  [':'].intercalate (groups.map fun g => Nat.toDigits 16 g.toNat)

/-- The number of zero groups from a position on. -/
def zerosAt (groups : List UInt16) (i : Nat) : Nat :=
  ((groups.drop i).takeWhile (· == 0)).length

/-- The first longest run of zero groups: where it starts and its length. -/
def longestZeros (groups : List UInt16) : Nat × Nat :=
  (List.range groups.length).foldl
    (fun best i => if best.2 < zerosAt groups i then (i, zerosAt groups i) else best) (0, 0)

def V6.toText (a : V6) : List Char :=
  match a.mapped? with
  | some b => "::ffff:".toList ++ b.toText
  | none =>
    let (start, length) := longestZeros a.groups
    if 1 < length then
      groupsText (a.groups.take start) ++ [':', ':'] ++ groupsText (a.groups.drop (start + length))
    else groupsText a.groups

def Ip.toText : Ip → String
  | v4 a => String.ofList a.toText
  | v6 a => String.ofList a.toText

/-! ### Reading -/

/-- Reads digits of a base, at most `most` of them, and their value. -/
def readDigits (isDigit : Char → Bool) (value : Char → Nat) (base most : Nat) (s : List Char) :
    Option (Nat × List Char) :=
  let digits := s.takeWhile isDigit
  if digits.isEmpty || most < digits.length then none
  else some (digits.foldl (fun n c => n * base + value c) 0, s.dropWhile isDigit)

/-- Reads a decimal number up to 255 without leading zeros. -/
def readByte (s : List Char) : Option (UInt8 × List Char) :=
  match readDigits Char.isDigit Text.decimalValue 10 3 s with
  | none => none
  | some (n, rest) =>
    if 255 < n ∨ s.head? = some '0' ∧ rest.length + 1 < s.length then none
    else some (n.toUInt8, rest)

def readGroup (s : List Char) : Option (UInt16 × List Char) :=
  (readDigits Text.isHexDigit Text.hexValue 16 4 s).map fun (n, rest) => (n.toUInt16, rest)

def readChar (c : Char) : List Char → Option (List Char)
  | [] => none
  | d :: s => if d = c then some s else none

def readV4 (s : List Char) : Option (V4 × List Char) := do
  let (b0, s) ← readByte s
  let s ← readChar '.' s
  let (b1, s) ← readByte s
  let s ← readChar '.' s
  let (b2, s) ← readByte s
  let s ← readChar '.' s
  let (b3, s) ← readByte s
  return (⟨b0, b1, b2, b3⟩, s)

/-- Reads at most `most` groups with colons between them, and whether dotted decimals end them. -/
def readGroups : (most : Nat) → (isFirst : Bool) → List Char → List UInt16 × Bool × List Char
  | 0, _, s => ([], false, s)
  | most + 1, isFirst, s =>
    match if isFirst then some s else readChar ':' s with
    | none => ([], false, s)
    | some r =>
      match if 1 ≤ most then readV4 r else none with
      | some (a, rest) => (a.groups, true, rest)
      | none =>
        match readGroup r with
        | none => ([], false, s)
        | some (g, rest) =>
          let (groups, dotted, rest) := readGroups most false rest
          (g :: groups, dotted, rest)

def readV6 (s : List Char) : Option (V6 × List Char) :=
  let (head, dotted, s) := readGroups 8 true s
  if head.length = 8 then (V6.ofGroups? head).map fun a => (a, s)
  else if dotted then none
  else do
    let s ← readChar ':' s
    let s ← readChar ':' s
    let (tail, _, s) := readGroups (7 - head.length) true s
    let a ← V6.ofGroups? (head ++ List.replicate (8 - head.length - tail.length) 0 ++ tail)
    return (a, s)

def Ip.ofText? (text : String) : Option Ip :=
  let s := text.toList
  match readV4 s with
  | some (a, []) => some (.v4 a)
  | some _ => none
  | none =>
    match readV6 s with
    | some (a, []) => some (.v6 a)
    | _ => none

example : (Ip.ofText? "1::2:0:0:3").map Ip.toText = some "1::2:0:0:3" := by decide +kernel
example : (Ip.ofText? "::FFFF:10.1.2.3").map Ip.toText = some "::ffff:10.1.2.3" := by decide +kernel
example : Ip.ofText? "01.2.3.4" = none := by decide +kernel

end HostAlert.Address
