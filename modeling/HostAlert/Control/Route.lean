import HostAlert.Control.Endpoint
import HostAlert.Control.Guard

/-!
# Routing

`plan` is the whole way of a request: the token guard, the cross-origin rules and the endpoint of
its path. It gives the action and what is added to the response in the end: the methods of the
endpoint when the method is none of them, and the header that lets other origins read it. The
response of an endpoint that understands `HEAD` to such a request has no body.
-/

namespace HostAlert.Control

open Json (Wording)

/-- What the control interface asks of its callers. -/
structure Policy where
  token : Option String
  cors : Bool
  deriving DecidableEq

/-- A request with what it asks for and the headers that are added to its response. -/
structure Plan where
  action : Action
  added : List (String × String)
  dropsBody : Bool

def allowOrigin : String × String := ("access-control-allow-origin", "*")

/-- The response to a preflight request: everything is allowed. -/
def preflight : Response :=
  ⟨200, [allowOrigin, ("access-control-allow-methods", "*"), ("access-control-allow-headers", "*")],
    .empty⟩

/-- The methods of the endpoint, unless it understands the method. -/
def allowed (r : Request) : List (String × String) :=
  match Endpoint.ofPath? r.path with
  | none => []
  | some e =>
    if e.methods.contains r.method then [] else [("allow", String.intercalate "," e.methods)]

/-- What a request asks for by its path and method. -/
def endpointAction (wording : Wording) (r : Request) : Action :=
  match Endpoint.ofPath? r.path with
  | none => .respond (.ofStatus 404)
  | some e => if e.methods.contains r.method then e.action wording r else .respond (.ofStatus 405)

/-- Whether an endpoint understands the request as one for its headers alone. -/
def dropsBody (r : Request) : Bool :=
  r.method == "HEAD" && (Endpoint.ofPath? r.path).any fun e => e.methods.contains r.method

/-- The refusal of the guard, if a token is required and the request does not present it. -/
def Policy.refusal? (p : Policy) (r : Request) : Option Guard.Refusal :=
  p.token.bind fun token => Guard.refusal? token r

/-- Whether the request only asks what other origins may do. -/
def Policy.isPreflight (p : Policy) (r : Request) : Bool :=
  p.cors && r.method == "OPTIONS"

def plan (p : Policy) (wording : Wording) (r : Request) : Plan :=
  let dropsBody := dropsBody r
  match p.refusal? r with
  | some refusal => ⟨.respond refusal.response, allowed r, dropsBody⟩
  | none =>
    if p.isPreflight r then ⟨.respond preflight, allowed r, dropsBody⟩
    else
      ⟨endpointAction wording r, (if p.cors then [allowOrigin] else []) ++ allowed r, dropsBody⟩

def Plan.finish (p : Plan) (r : Response) : Response :=
  let r := r.withHeaders p.added
  if p.dropsBody then r.withoutBody else r

end HostAlert.Control
