import HostAlert.Json.Skip

/-!
# Readers of typed values

Readers of truth values, strings, numbers, optional values, lists, names of variants and records.
A reader that meets another kind of value still reads that value's first token: a broken token is
reported as such, and only a sound one as mistyped (`mismatch`).
-/

namespace HostAlert.Json

/-- The fault of a token that was read but is not wanted. -/
def unwanted {α : Type} : Except Fault α → Fault
  | .ok _ => .mistyped
  | .error e => e

/-- The fault of a value of the wrong kind; the bytes start with no white space. -/
def mismatch (s : Bytes) : Fault :=
  match s with
  | [] => .truncated
  | b :: r =>
    if b = byte 'n' then unwanted (word (utf8 "ull") r)
    else if b = byte 't' then unwanted (word (utf8 "rue") r)
    else if b = byte 'f' then unwanted (word (utf8 "alse") r)
    else if b = 0x22 then unwanted (text r)
    else if b = byte '-' ∨ isDigit b then unwanted (number s)
    else if b = 0x5B ∨ b = 0x7B then .mistyped
    else .malformed

def bool : Reader Bool := fun s =>
  match skipSpace s with
  | [] => .error .truncated
  | b :: r =>
    if b = byte 't' then (word (utf8 "rue") r).map fun rest => (true, rest)
    else if b = byte 'f' then (word (utf8 "alse") r).map fun rest => (false, rest)
    else .error (mismatch (b :: r))

/-- Reads the word for no value. -/
def null (s : Bytes) : Except Fault Bytes :=
  match skipSpace s with
  | [] => .error .truncated
  | b :: r => if b = byte 'n' then word (utf8 "ull") r else .error (mismatch (b :: r))

def string : Reader String := fun s =>
  match skipSpace s with
  | [] => .error .truncated
  | b :: r => if b = 0x22 then text r else .error (mismatch (b :: r))

/-- Reads a number and converts it. -/
def numberOf {α : Type} (convert : Number → Option α) : Reader α := fun s =>
  match skipSpace s with
  | [] => .error .truncated
  | b :: r =>
    if b = byte '-' ∨ isDigit b then do
      let (n, rest) ← number (b :: r)
      match convert n with
      | some a => .ok (a, rest)
      | none => .error .mistyped
    else .error (mismatch (b :: r))

/-- The nearest double of an integer of 64 bits. -/
def doubleOfInt (n : Int) : Float :=
  if n < 0 then -n.natAbs.toUInt64.toFloat else n.natAbs.toUInt64.toFloat

/-- Reads a double; whole numbers are converted. -/
def double : Reader Float :=
  numberOf fun
    | .whole n => some (doubleOfInt n)
    | .double x => some x

def wholeWithin (low high : Int) : Number → Option Int
  | .whole n => if low ≤ n ∧ n ≤ high then some n else none
  | .double _ => none

def wholeIn (low high : Int) : Reader Int :=
  numberOf (wholeWithin low high)

def uint64 : Reader UInt64 := fun s => do
  let (n, rest) ← wholeIn 0 0xFFFFFFFFFFFFFFFF s
  .ok (n.toNat.toUInt64, rest)

def int64 : Reader Int64 := fun s => do
  let (n, rest) ← wholeIn (-0x8000000000000000) 0x7FFFFFFFFFFFFFFF s
  .ok (Int64.ofInt n, rest)

/-- Reads a value, or the word for none. -/
def optional {α : Type} (read : Reader α) : Reader (Option α) := fun s =>
  let absent :=
    match skipSpace s with
    | b :: r => if b = byte 'n' then some (word (utf8 "ull") r) else none
    | [] => none
  match absent with
  | some rest => rest.map fun rest => (none, rest)
  | none => (read s).map fun (a, rest) => (some a, rest)

/-- Reads a string and converts it. -/
def stringOf {α : Type} (convert : String → Option α) : Reader α := fun s => do
  let (name, rest) ← string s
  match convert name with
  | some a => .ok (a, rest)
  | none => .error .mistyped

/-- Reads the name of a member; anything but a string in its place is malformed. -/
def key {α : Type} (read : Reader α) : Reader α := fun s =>
  match skipSpace s with
  | [] => .error .truncated
  | b :: r => if b = 0x22 then read (b :: r) else .error .malformed

/-- Reads a variant by its name: a string, or an object with the name as its only member and no
value. -/
def variant {α : Type} (convert : String → Option α) : Reader α := fun s =>
  match skipSpace s with
  | [] => .error .truncated
  | b :: r =>
    if b = 0x22 then stringOf convert (b :: r)
    else if b = 0x7B then do
      let (a, rest) ← key (stringOf convert) r
      let rest ← colon rest >>= null
      match skipSpace rest with
      | [] => .error .truncated
      | b :: rest => if b = 0x7D then .ok (a, rest) else .error .malformed
    else .error .malformed

/-! ### Items of lists -/

/-- Goes to the next item of a list: the bytes before it, or none when the list ends here. -/
def nextItem (isFirst : Bool) (s : Bytes) : Except Fault (Option Bytes) :=
  match skipSpace s with
  | [] => .error .truncated
  | b :: r =>
    if b = 0x5D then .ok none
    else if isFirst then .ok (some (b :: r))
    else if b = byte ',' then
      match skipSpace r with
      | [] => .error .truncated
      | c :: t => if c = 0x5D then .error .malformed else .ok (some (c :: t))
    else .error .malformed

def listEnd (s : Bytes) : Except Fault Bytes :=
  match skipSpace s with
  | [] => .error .truncated
  | b :: r => if b = 0x5D then .ok r else .error .malformed

/-- Reads the items of a list up to its end. `fuel` bounds their number; the number of bytes is
always enough. -/
def itemsWithin {α : Type} (read : Reader α) :
    (fuel : Nat) → (done : List α) → (isFirst : Bool) → Reader (List α)
  | 0, _, _, _ => .error .truncated
  | fuel + 1, done, isFirst, s =>
    match nextItem isFirst s with
    | .error e => .error e
    | .ok none => (listEnd s).map fun rest => (done.reverse, rest)
    | .ok (some s) =>
      match read s with
      | .error e => .error e
      | .ok (a, rest) => itemsWithin read fuel (a :: done) false rest

def list {α : Type} (read : Reader α) : Reader (List α) := fun s =>
  match skipSpace s with
  | [] => .error .truncated
  | b :: r =>
    if b = 0x5B then itemsWithin read (r.length + 1) [] true r else .error (mismatch (b :: r))

/-- Reads a value that takes up the whole text. -/
def document {α : Type} (read : Reader α) (s : Bytes) : Except Fault α := do
  let (a, rest) ← read s
  if skipSpace rest = [] then .ok a else .error .malformed

end HostAlert.Json
