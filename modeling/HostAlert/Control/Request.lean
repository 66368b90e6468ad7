import HostAlert.Control.Target
import HostAlert.Json.Value

/-!
# Requests and responses of the control interface

A `Request` as it was received and a `Response` as it is to be sent. The body of a response is a
text or a JSON value; its text is made when it is sent.
-/

namespace HostAlert.Control

structure Request where
  method : String
  /-- What the first line asks for. -/
  target : String
  headers : List (String × Bytes)
  body : Bytes

namespace Request

def path (r : Request) : String :=
  String.ofList ((Target.path? r.target.toList).getD [])

/-- The first header of a name; the name is given in lower case. -/
def header? (r : Request) (name : String) : Option Bytes :=
  (r.headers.find? fun h => h.1.toList.map Char.toLower == name.toList).map (·.2)

/-- Whether the byte may stand in a header that is read as a text. -/
def isReadable (b : UInt8) : Bool :=
  (0x20 ≤ b && b < 0x7F) || b == 0x09

/-- The text of a header, unless it holds other bytes than printable ones and tabs. -/
def readable? (value : Bytes) : Option (List Char) :=
  if value.all isReadable then some (value.map fun b => Char.ofNat b.toNat) else none

end Request

inductive Body
  | empty
  | text (s : String)
  | json (v : Json.Value)

structure Response where
  status : Nat
  headers : List (String × String)
  body : Body

namespace Response

def contentType : String := "content-type"

def ofStatus (status : Nat) : Response :=
  ⟨status, [], .empty⟩

def ofText (status : Nat) (s : String) : Response :=
  ⟨status, [(contentType, "text/plain; charset=utf-8")], .text s⟩

def ofJson (status : Nat) (v : Json.Value) : Response :=
  ⟨status, [(contentType, "application/json")], .json v⟩

/-- A response that says what went wrong. -/
def ofError (status : Nat) (message : String) : Response :=
  ofJson status (.object [("error", .text message)])

def withHeaders (r : Response) (headers : List (String × String)) : Response :=
  { r with headers := r.headers ++ headers }

def withoutBody (r : Response) : Response :=
  { r with body := .empty }

end Response

end HostAlert.Control
