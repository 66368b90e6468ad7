import HostAlert.Address.Notation
import HostAlert.Http.Exchange
import HostAlert.Text.Blank
import HostAlert.Time.Span

/-!
# The public address of the host

Services that answer with the caller's address are asked in order until one gives an address. The
answer is kept for a while; when no service answers, the last address is given once more.
`Lookup` is one such search, step by step.
-/

namespace HostAlert.PublicIp

def defaultEndpoints : List String :=
  ["https://api64.ipify.org?format=text", "https://api.ipify.org?format=text"]

/-- How long an address is kept unless told otherwise. -/
def defaultTtl : Span := .ofSeconds 1800

def maxBody : Nat := 128

/-- An address and when it was found, on a clock that never goes back. -/
structure Cached where
  value : String
  foundAt : Span
  deriving DecidableEq

def Cached.isFresh (c : Cached) (ttl now : Span) : Bool :=
  !c.value.isEmpty && decide (now.nanos - c.foundAt.nanos < ttl.nanos)

def lastValue : Option Cached → String
  | none => ""
  | some c => c.value

/-- The call that asks a service; none when its address is no URL. -/
def callTo (endpoint : String) : Option Http.Call :=
  match Http.Url.ofText? endpoint with
  | some url => if url.isSendable then some ⟨url, none⟩ else none
  | none => none

def found : Http.Answer → Option String
  | .failed => none
  | .reply r =>
    if r.status = 200 then
      let text := String.ofList (Text.trim (Text.Utf8.decodeLossy (r.body maxBody)))
      if (Address.Ip.ofText? text).isSome then some text else none
    else none

inductive Lookup
  /-- The services are asked in turn. -/
  | asking (endpoints : List String)
  /-- The search is over. -/
  | done (value : String)
  deriving DecidableEq

def Lookup.start (cache : Option Cached) (endpoints : List String) (ttl now : Span) : Lookup :=
  match cache with
  | some c => if c.isFresh ttl now then .done c.value else .asking endpoints
  | none => .asking endpoints

/-- The answer of the first service in turn. -/
def Lookup.answered (cache : Option Cached) (rest : List String) (now : Span)
    (answer : Http.Answer) : Option Cached × Lookup :=
  match found answer with
  | some value => (some ⟨value, now⟩, .done value)
  | none => (cache, .asking rest)

end HostAlert.PublicIp
