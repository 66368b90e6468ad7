/-!
# UTF-8

`encode` gives the bytes of a text. Reading goes through `scan`, which cuts a byte sequence into
characters and malformed parts; a malformed part is the longest start of a character that its
continuation breaks off, or a single byte that starts none. `decode?` accepts sequences without
malformed parts, `decodeLossy` puts U+FFFD in the place of each.
-/

namespace HostAlert

/-- A sequence of bytes, as sent or received. -/
abbrev Bytes := List UInt8

namespace Text.Utf8

def encode (s : List Char) : Bytes :=
  s.flatMap String.utf8EncodeChar

def isTail (b : UInt8) : Bool :=
  0x80 ≤ b && b ≤ 0xBF

/-- Whether `b` may follow `a`, the first of three bytes. -/
def isSecondOfThree (a b : UInt8) : Bool :=
  if a == 0xE0 then 0xA0 ≤ b && b ≤ 0xBF
  else if a == 0xED then 0x80 ≤ b && b ≤ 0x9F
  else isTail b

/-- Whether `b` may follow `a`, the first of four bytes. -/
def isSecondOfFour (a b : UInt8) : Bool :=
  if a == 0xF0 then 0x90 ≤ b && b ≤ 0xBF
  else if a == 0xF4 then 0x80 ≤ b && b ≤ 0x8F
  else isTail b

/-- The six payload bits of a continuation byte. -/
def payload (b : UInt8) : Nat :=
  b.toNat % 0x40

def charOfTwo (a b : UInt8) : Char :=
  Char.ofNat (a.toNat % 0x20 * 0x40 + payload b)

def charOfThree (a b c : UInt8) : Char :=
  Char.ofNat (a.toNat % 0x10 * 0x1000 + payload b * 0x40 + payload c)

def charOfFour (a b c d : UInt8) : Char :=
  Char.ofNat (a.toNat % 0x08 * 0x40000 + payload b * 0x1000 + payload c * 0x40 + payload d)

/-- The characters of a byte sequence after those of `done`, which is reversed; `none` stands for a
malformed part. -/
def scanFrom (done : List (Option Char)) : Bytes → List (Option Char)
  | [] => done.reverse
  | a :: s =>
    if a < 0x80 then scanFrom (some (Char.ofNat a.toNat) :: done) s
    else if 0xC2 ≤ a ∧ a ≤ 0xDF then
      match s with
      | [] => (none :: done).reverse
      | b :: r =>
        if isTail b then scanFrom (some (charOfTwo a b) :: done) r
        else scanFrom (none :: done) (b :: r)
    else if 0xE0 ≤ a ∧ a ≤ 0xEF then
      match s with
      | [] => (none :: done).reverse
      | b :: r =>
        if isSecondOfThree a b then
          match r with
          | [] => (none :: done).reverse
          | c :: t =>
            if isTail c then scanFrom (some (charOfThree a b c) :: done) t
            else scanFrom (none :: done) (c :: t)
        else scanFrom (none :: done) (b :: r)
    else if 0xF0 ≤ a ∧ a ≤ 0xF4 then
      match s with
      | [] => (none :: done).reverse
      | b :: r =>
        if isSecondOfFour a b then
          match r with
          | [] => (none :: done).reverse
          | c :: t =>
            if isTail c then
              match t with
              | [] => (none :: done).reverse
              | d :: u =>
                if isTail d then scanFrom (some (charOfFour a b c d) :: done) u
                else scanFrom (none :: done) (d :: u)
            else scanFrom (none :: done) (c :: t)
        else scanFrom (none :: done) (b :: r)
    else scanFrom (none :: done) s

def scan (s : Bytes) : List (Option Char) :=
  scanFrom [] s

def decode? (s : Bytes) : Option (List Char) :=
  let parts := scan s
  if parts.all Option.isSome then some (parts.filterMap id) else none

/-- The text of a byte sequence, with U+FFFD in the place of each malformed part. -/
def decodeLossy (s : Bytes) : List Char :=
  (scan s).map fun part => part.getD '\uFFFD'

example : decodeLossy [0x61, 0xE2, 0x82, 0x62, 0xFF, 0xED, 0xA0, 0x80]
    = ['a', '\uFFFD', 'b', '\uFFFD', '\uFFFD', '\uFFFD', '\uFFFD'] := by
  decide

end Text.Utf8

def utf8 (s : String) : Bytes :=
  Text.Utf8.encode s.toList

end HostAlert
