import HostAlert.PublicIp

/-!
# The resolver of the public address

A `Resolver` makes one lookup after the other and keeps the last address between them. What its
surroundings do in the course of a lookup is an `Encounter`: any answers at any times. `lookup`
makes the steps of `Lookup` up to its end and gives a `Visit`, the account of what was asked and
given.
-/

namespace HostAlert.PublicIp

/-- What the surroundings do in the course of a lookup: when it begins, what comes back for each of
its requests in turn, and when that has been read. -/
structure Encounter where
  begunAt : Span
  answer : Nat → Http.Answer
  answeredAt : Nat → Span

def Encounter.later (e : Encounter) : Encounter :=
  ⟨e.begunAt, fun n => e.answer (n + 1), fun n => e.answeredAt (n + 1)⟩

/-- One request of a lookup, its answer, and when that had been read. -/
structure Inquiry where
  call : Http.Call
  answer : Http.Answer
  answeredAt : Span

def Inquiry.fetched (i : Inquiry) : Option Cached :=
  (found i.answer).map fun value => ⟨value, i.answeredAt⟩

structure Visit where
  begunAt : Span
  inquiries : List Inquiry
  value : String

/-- The services that are asked, how long an address is kept, and the last one. -/
structure Resolver where
  endpoints : List String
  ttl : Span
  cache : Option Cached

namespace Resolver

def new (endpoints : List String) (ttl : Span) : Resolver :=
  ⟨endpoints, ttl, none⟩

/-- Asks services in order until one gives an address. -/
def ask (cache : Option Cached) (e : Encounter) :
    List String → Option Cached × List Inquiry × String
  | [] => (cache, [], lastValue cache)
  | endpoint :: rest =>
    match callTo endpoint with
    | none => ask cache e rest
    | some call =>
      let inquiry : Inquiry := ⟨call, e.answer 0, e.answeredAt 0⟩
      match Lookup.answered cache rest (e.answeredAt 0) (e.answer 0) with
      | (cache, .done value) => (cache, [inquiry], value)
      | (cache, .asking _) =>
        let (cache, inquiries, value) := ask cache e.later rest
        (cache, inquiry :: inquiries, value)

def lookup (r : Resolver) (e : Encounter) : Resolver × Visit :=
  match Lookup.start r.cache r.endpoints r.ttl e.begunAt with
  | .done value => (r, ⟨e.begunAt, [], value⟩)
  | .asking endpoints =>
    let (cache, inquiries, value) := ask r.cache e endpoints
    ({ r with cache }, ⟨e.begunAt, inquiries, value⟩)

def run (r : Resolver) : List Encounter → Resolver × List Visit
  | [] => (r, [])
  | e :: encounters =>
    let (r, visit) := r.lookup e
    let (r, visits) := r.run encounters
    (r, visit :: visits)

end Resolver

end HostAlert.PublicIp
