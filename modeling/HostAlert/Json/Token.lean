import HostAlert.Text.Utf8

/-!
# Tokens of JSON texts

White space, literal words and string contents, read from a byte sequence from the left. A reader
gives what it read and the bytes after it; it stops at the first problem met, and a `Fault` is its
kind. `text` checks escapes, surrogates and UTF-8; `skipText` passes over a string and checks its
escapes only.
-/

namespace HostAlert.Json

/-- The kind of the first problem met while decoding. -/
inductive Fault
  /-- The text breaks a rule of the format. -/
  | malformed
  /-- The text is well formed but not what is wanted here. -/
  | mistyped
  /-- The text ends too early. -/
  | truncated
  deriving DecidableEq

/-- What is said about a fault; the words are the caller's choice. -/
abbrev Wording := Fault → String

/-- Reads a value from the front of a byte sequence and gives the bytes after it. -/
abbrev Reader (α : Type) := Bytes → Except Fault (α × Bytes)

def byte (c : Char) : UInt8 :=
  c.toNat.toUInt8

def isSpace (b : UInt8) : Bool :=
  b == 0x20 || b == 0x0A || b == 0x0D || b == 0x09

def skipSpace (s : Bytes) : Bytes :=
  s.dropWhile isSpace

def word : Bytes → Bytes → Except Fault Bytes
  | [], s => .ok s
  | _ :: _, [] => .error .truncated
  | w :: ws, b :: s => if w = b then word ws s else .error .malformed

/-- Reads the colon between a name and its value. -/
def colon (s : Bytes) : Except Fault Bytes :=
  match skipSpace s with
  | [] => .error .truncated
  | b :: r => if b = byte ':' then .ok r else .error .malformed

def hexDigit? (b : UInt8) : Option Nat :=
  if 0x30 ≤ b ∧ b ≤ 0x39 then some (b.toNat - 0x30)
  else if 0x41 ≤ b ∧ b ≤ 0x46 then some (b.toNat - 0x41 + 10)
  else if 0x61 ≤ b ∧ b ≤ 0x66 then some (b.toNat - 0x61 + 10)
  else none

def hexUnit? (a b c d : UInt8) : Option Nat := do
  let a ← hexDigit? a
  let b ← hexDigit? b
  let c ← hexDigit? c
  let d ← hexDigit? d
  return ((a * 16 + b) * 16 + c) * 16 + d

/-- The byte that a backslash and one letter stand for. -/
def escaped? (b : UInt8) : Option UInt8 :=
  if b = 0x22 ∨ b = 0x5C ∨ b = 0x2F then some b
  else if b = byte 'b' then some 0x08
  else if b = byte 'f' then some 0x0C
  else if b = byte 'n' then some 0x0A
  else if b = byte 'r' then some 0x0D
  else if b = byte 't' then some 0x09
  else none

def isHighSurrogate (n : Nat) : Bool :=
  0xD800 ≤ n && n ≤ 0xDBFF

def isLowSurrogate (n : Nat) : Bool :=
  0xDC00 ≤ n && n ≤ 0xDFFF

/-- The character of a surrogate pair. -/
def pairedChar (high low : Nat) : Char :=
  Char.ofNat ((high - 0xD800) * 0x400 + (low - 0xDC00) + 0x10000)

/-- Puts the bytes of a character on top of reversed bytes. -/
def pushChar (done : Bytes) (c : Char) : Bytes :=
  (String.utf8EncodeChar c).reverse ++ done

/-- The bytes of a string up to its closing quote, with escapes replaced, and the bytes after it.
`done` holds the bytes read so far, reversed. -/
def contentFrom (done : Bytes) : Bytes → Except Fault (Bytes × Bytes)
  | [] => .error .truncated
  | b :: s =>
    if b = 0x22 then .ok (done.reverse, s)
    else if b < 0x20 then .error .malformed
    else if b ≠ 0x5C then contentFrom (b :: done) s
    else
      match s with
      | [] => .error .truncated
      | e :: s =>
        if e ≠ byte 'u' then
          match escaped? e with
          | none => .error .malformed
          | some c => contentFrom (c :: done) s
        else
          match s with
          | h1 :: h2 :: h3 :: h4 :: s =>
            match hexUnit? h1 h2 h3 h4 with
            | none => .error .malformed
            | some high =>
              if isLowSurrogate high then .error .malformed
              else if !isHighSurrogate high then contentFrom (pushChar done (Char.ofNat high)) s
              else
                match s with
                | [] => .error .truncated
                | x :: s =>
                  if x ≠ 0x5C then .error .malformed
                  else
                    match s with
                    | [] => .error .truncated
                    | y :: s =>
                      if y ≠ byte 'u' then .error .malformed
                      else
                        match s with
                        | l1 :: l2 :: l3 :: l4 :: s =>
                          match hexUnit? l1 l2 l3 l4 with
                          | none => .error .malformed
                          | some low =>
                            if isLowSurrogate low then
                              contentFrom (pushChar done (pairedChar high low)) s
                            else .error .malformed
                        | _ => .error .truncated
          | _ => .error .truncated

def text : Reader String := fun s => do
  let (content, rest) ← contentFrom [] s
  match Text.Utf8.decode? content with
  | some chars => .ok (String.ofList chars, rest)
  | none => .error .malformed

def skipText : Bytes → Except Fault Bytes
  | [] => .error .truncated
  | b :: s =>
    if b = 0x22 then .ok s
    else if b < 0x20 then .error .malformed
    else if b ≠ 0x5C then skipText s
    else
      match s with
      | [] => .error .truncated
      | e :: s =>
        if e ≠ byte 'u' then
          if (escaped? e).isSome then skipText s else .error .malformed
        else
          match s with
          | h1 :: h2 :: h3 :: h4 :: s =>
            if (hexUnit? h1 h2 h3 h4).isSome then skipText s else .error .malformed
          | _ => .error .truncated

end HostAlert.Json
