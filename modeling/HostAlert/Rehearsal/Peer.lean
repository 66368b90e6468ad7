import HostAlert.Delivery
import HostAlert.PublicIp

/-!
# Scripted peers

A `Peer` stands for the hosts that calls go to. It answers the calls made to its own address from a
script, one entry per call, and with an acknowledgement when the script is over; calls to any other
address fail. It keeps the calls that it saw. `deliver` carries one message through against a peer,
and `lookup` one search for the public address.
-/

namespace HostAlert.Rehearsal

structure Scripted where
  status : Nat
  body : Bytes
  /-- The connection is closed without an answer. -/
  drops : Bool
  /-- The body breaks off before its announced end. -/
  breaksOff : Bool
  /-- The settings of the manager are replaced before the answer. -/
  meanwhile : Option TelegramConfig

/-- The answer when the script is over. -/
def Scripted.acknowledgement : Scripted :=
  ⟨200, utf8 "\x7b\x22ok\x22:true\x7d", false, false, none⟩

/-- The body that is sent with the status; two statuses never have one. -/
def Scripted.sentBody (s : Scripted) : Bytes :=
  if s.status = 204 ∨ s.status = 304 then [] else s.body

def Scripted.answer (s : Scripted) : Http.Answer :=
  if s.drops then .failed else .reply ⟨s.status, [s.sentBody], !s.breaksOff⟩

/-- A peer with what is left of its script and the calls that it saw since they were last
collected. -/
structure Peer where
  /-- Whether any connection to the peer succeeds. -/
  reachable : Bool
  script : List Scripted
  seen : List Http.Call

namespace Peer

def host : Http.Host := .address (.v4 .localhost)

def port : Nat := 18080

def base : String := "http://127.0.0.1:18080"

example : (Http.Url.ofText? base).map (fun u => (u.secure, u.host, u.port))
    = some (false, host, port) := by
  decide +kernel

def receives (p : Peer) (call : Http.Call) : Bool :=
  p.reachable && !call.url.secure && call.url.host == host && call.url.port == port

/-- The answer to a call, and the settings that are put in place before it. -/
def take (p : Peer) (call : Http.Call) : Peer × Http.Answer × Option TelegramConfig :=
  if p.receives call then
    let entry := p.script.headD .acknowledgement
    ({ p with script := p.script.tail, seen := p.seen ++ [call] }, entry.answer, entry.meanwhile)
  else (p, .failed, none)

/-- The time from a call to its answer, which grows with the texts that are posted. -/
def delay (call : Http.Call) : Span :=
  ⟨10 * (call.form.getD []).foldl (fun size (_, value) => size + value.utf8ByteSize) 0⟩

theorem receives_take (p : Peer) (call : Http.Call) : (p.take call).1.receives = p.receives := by
  unfold take
  split <;> rfl

theorem seen_take (p : Peer) (call : Http.Call) :
    (p.take call).1.seen = p.seen ++ [call].filter p.receives := by
  unfold take
  split
  · next h => rw [List.filter_cons_of_pos h, List.filter_nil]
  · next h => rw [List.filter_cons_of_neg h, List.filter_nil, List.append_nil]

end Peer

def deliver (peer : Peer) (base : String) (config : TelegramConfig) (message : String) :
    Peer × Outcome :=
  match Delivery.prepare base config message with
  | .skip => (peer, .ok ())
  | .fail e => (peer, .error e)
  | .send call =>
    let (peer, answer, _) := peer.take call
    (peer, Delivery.outcome answer)

open PublicIp

/-- Asks services in order until one gives an address. -/
def ask (peer : Peer) (cache : Option Cached) (now : Span) :
    List String → Peer × Option Cached × String
  | [] => (peer, cache, lastValue cache)
  | endpoint :: rest =>
    match callTo endpoint with
    | none => ask peer cache now rest
    | some call =>
      let (peer, answer, _) := peer.take call
      match Lookup.answered cache rest now answer with
      | (cache, .done value) => (peer, cache, value)
      | (cache, .asking _) => ask peer cache now rest

def lookup (peer : Peer) (cache : Option Cached) (endpoints : List String) (ttl now : Span) :
    Peer × Option Cached × String :=
  match Lookup.start cache endpoints ttl now with
  | .done value => (peer, cache, value)
  | .asking endpoints => ask peer cache now endpoints

end HostAlert.Rehearsal
