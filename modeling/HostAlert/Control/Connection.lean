import HostAlert.Control.MediaType
import HostAlert.Control.Request

/-!
# Requests over connections

A request that arrives over a connection is checked before anything else is done with it: its method
and the names of its headers are tokens, its target is one, and no value holds a control character.
Blanks around the value of a header do not count. The response to `HEAD` has no body.
-/

namespace HostAlert.Control

namespace Request

/-- The greatest number of bytes of a target. -/
def maxTarget : Nat := 65534

def isToken (s : String) : Bool :=
  !s.isEmpty && s.toList.all MediaType.isToken

def isTargetChar (c : Char) : Bool :=
  0x20 < c.toNat && c.toNat != 0x7F

def isValueByte (b : UInt8) : Bool :=
  b == 0x09 || (0x20 ≤ b && b != 0x7F)

/-- Whether the lines of the request can be told apart into their parts. -/
def isLegible (r : Request) : Bool :=
  isToken r.method && !r.target.isEmpty && r.target.toList.all isTargetChar &&
    r.headers.all fun (name, value) => isToken name && value.all isValueByte

/-- The value of a header without the spaces and tabs around it. -/
def withoutPadding (value : Bytes) : Bytes :=
  let isPadding (b : UInt8) : Bool := b == 0x20 || b == 0x09
  ((value.dropWhile isPadding).reverse.dropWhile isPadding).reverse

/-- The request as it arrives, or the status with which it is turned away. -/
def received (r : Request) : Except Nat Request :=
  if !r.isLegible then .error 400
  else if maxTarget < (utf8 r.target).length then .error 414
  else if (Target.path? r.target.toList).isNone then .error 400
  else
    .ok { r with headers := r.headers.map fun (name, value) => (name, withoutPadding value) }

end Request

/-- The response as it is sent over a connection. -/
def Response.sent (r : Response) (method : String) : Response :=
  if method = "HEAD" then r.withoutBody else r

end HostAlert.Control
