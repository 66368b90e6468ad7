import HostAlert.Control.Request

/-!
# The token guard

With a required token, only requests that present it pass. A request presents the value of the
secret header when it has one, else what follows the word Bearer in the authorization header.
-/

namespace HostAlert.Control.Guard

/-- The header that holds nothing but the token. -/
def secretHeader : String := "x-hostwatch-secret"

def authorizationHeader : String := "authorization"

/-- Why a request does not pass. -/
inductive Refusal
  | missing
  | unreadable
  | wrong
  deriving DecidableEq

def Refusal.response : Refusal → Response
  | missing => .ofText 401 "Missing Authorization header"
  | unreadable => .ofText 401 "Invalid Authorization format (expected: Bearer <token>)"
  | wrong => .ofText 403 "Invalid token"

/-- The text after a given beginning. -/
def stripFront : (front : List Char) → List Char → Option (List Char)
  | [], s => some s
  | _ :: _, [] => none
  | c :: front, d :: s => if c = d then stripFront front s else none

def presented (r : Request) : Except Refusal (List Char) :=
  match r.header? secretHeader with
  | some value =>
    match Request.readable? value with
    | some token => .ok token
    | none => .error .unreadable
  | none =>
    match (r.header? authorizationHeader).bind Request.readable? with
    | none => .error .missing
    | some value =>
      match stripFront "Bearer ".toList value with
      | some token => .ok token
      | none => .error .unreadable

/-- Why the request does not pass a guard with the given token. -/
def refusal? (token : String) (r : Request) : Option Refusal :=
  match presented r with
  | .error e => some e
  | .ok given => if given = token.toList then none else some .wrong

end HostAlert.Control.Guard
