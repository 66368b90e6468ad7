import HostAlert.Json.Typed

/-!
# Records

A `Member` of a record is its name, its reader and what its absence means. A record is written as an
object, with its members in any order and unknown ones passed over, or as a list of the values of
its members in order. The record starts as a given value and each member read replaces its part of
it.
-/

namespace HostAlert.Json

/-- What the absence of a member means. -/
inductive Absence
  /-- The member is required. -/
  | refused
  /-- The part of the starting value stays. -/
  | kept
  /-- The part of the starting value stays in an object; in a list the member is required. -/
  | keptInObject
  deriving DecidableEq

/-- A member of a record of type `σ`. -/
structure Member (σ : Type) where
  name : String
  absence : Absence
  read : σ → Reader σ

namespace Member

variable {σ : Type}

/-- A member of a type of its own, read by `read` and put into place by `put`. -/
def of {α : Type} (name : String) (absence : Absence) (read : Reader α) (put : σ → α → σ) :
    Member σ :=
  ⟨name, absence, fun record s => (read s).map fun (a, rest) => (put record a, rest)⟩

def find? (members : List (Member σ)) (name : String) : Option (Member σ) :=
  members.find? fun m => m.name == name

/-- The members from the list form: one value per member, in order. -/
def fromList : List (Member σ) → (isFirst : Bool) → σ → Reader σ
  | [], _, record, s => (listEnd s).map fun rest => (record, rest)
  | m :: members, isFirst, record, s =>
    match nextItem isFirst s with
    | .error e => .error e
    | .ok none =>
      if m.absence = .kept then fromList members false record s else .error .mistyped
    | .ok (some s) =>
      match m.read record s with
      | .error e => .error e
      | .ok (record, rest) => fromList members false record rest

/-- Goes to the name of the next member of an object: the bytes after its opening quote, or none
when the object ends here. -/
def nextName (isFirst : Bool) (s : Bytes) : Except Fault (Option Bytes) :=
  match skipSpace s with
  | [] => .error .truncated
  | b :: r =>
    if b = 0x7D then .ok none
    else if isFirst then if b = 0x22 then .ok (some r) else .error .malformed
    else if b = byte ',' then
      match skipSpace r with
      | [] => .error .truncated
      | c :: t => if c = 0x22 then .ok (some t) else .error .malformed
    else .error .malformed

def objectEnd (s : Bytes) : Except Fault Bytes :=
  match skipSpace s with
  | [] => .error .truncated
  | b :: r => if b = 0x7D then .ok r else .error .malformed

/-- Whether every required member was seen. -/
def complete (members : List (Member σ)) (seen : List String) : Bool :=
  members.all fun m => m.absence != .refused || seen.contains m.name

/-- The value of a member of an object, from the end of its name: the record after it. -/
def value (members : List (Member σ)) (seen : List String) (name : String) (record : σ)
    (s : Bytes) : Except Fault (List String × σ × Bytes) :=
  match find? members name with
  | none => do
    let rest ← colon s >>= skip
    .ok (seen, record, rest)
  | some m =>
    if seen.contains name then .error .mistyped
    else do
      let (record, rest) ← colon s >>= m.read record
      .ok (name :: seen, record, rest)

/-- The members from the object form. `seen` holds the names of the members read so far; `fuel`
bounds the number of members, and the number of bytes is always enough. -/
def fromObject (members : List (Member σ)) :
    (fuel : Nat) → (seen : List String) → (isFirst : Bool) → σ → Reader σ
  | 0, _, _, _, _ => .error .truncated
  | fuel + 1, seen, isFirst, record, s =>
    match nextName isFirst s with
    | .error e => .error e
    | .ok none =>
      if complete members seen then (objectEnd s).map fun rest => (record, rest)
      else .error .mistyped
    | .ok (some s) =>
      match text s with
      | .error e => .error e
      | .ok (name, rest) =>
        match value members seen name record rest with
        | .error e => .error e
        | .ok (seen, record, rest) => fromObject members fuel seen false record rest

end Member

/-- Reads a record that starts as `start`. -/
def record {σ : Type} (members : List (Member σ)) (start : σ) : Reader σ := fun s =>
  match skipSpace s with
  | [] => .error .truncated
  | b :: r =>
    if b = 0x5B then Member.fromList members true start r
    else if b = 0x7B then Member.fromObject members (r.length + 1) [] true start r
    else .error (mismatch (b :: r))

end HostAlert.Json
