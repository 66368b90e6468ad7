import HostAlert.PublicIp.Resolver
import HostAlert.Rehearsal.Peer
import Mathlib.Data.List.Induction

/-!
# What a lookup of the public address gives

Of the lookups that a resolver has made, `lastFetched` is the last address that a service gave and
when it was read. The next lookup gives that address without asking as long as it is young enough,
and otherwise asks the services in order (`Resolver.lookup_follows`). The resolver keeps nothing but
`lastFetched`, so only an address that is fetched makes what it keeps young again.
-/

namespace HostAlert.PublicIp

variable {endpoints : List String} {ttl : Span} {cache last : Option Cached} {e : Encounter}
  {answer : Http.Answer} {value : String} {r : Resolver}

/-! ### Answers -/

/-- The answer has the status of success, and the front of its body, without the blank characters
around it, spells an address. -/
def Gives (answer : Http.Answer) (value : String) : Prop :=
  ∃ r, answer = .reply r ∧ r.status = 200 ∧
    value.toList = Text.trim (Text.Utf8.decodeLossy (r.chunks.flatten.take maxBody)) ∧
    (Address.Ip.ofText? value).isSome

theorem found_eq_some_iff : found answer = some value ↔ Gives answer value := by
  cases answer with
  | failed =>
    constructor
    · intro h
      cases h
    · rintro ⟨_, h, -⟩
      cases h
  | reply r =>
    rw [found, Http.Reply.body, Http.readLimited_eq_take]
    constructor
    · intro h
      split at h
      · next hstatus =>
        dsimp only at h
        split at h
        · next hip =>
          cases h
          exact ⟨r, rfl, hstatus, String.toList_ofList, hip⟩
        · cases h
      · cases h
    · rintro ⟨_, h, hstatus, htext, hip⟩
      cases h
      have htext' : String.ofList
          (Text.trim (Text.Utf8.decodeLossy (r.chunks.flatten.take maxBody))) = value := by
        rw [← htext, String.ofList_toList]
      simp only [if_pos hstatus, htext', if_pos hip]

def Inquiry.Fails (i : Inquiry) : Prop :=
  ∀ value, ¬ Gives i.answer value

theorem Inquiry.fails_of_found {i : Inquiry} (h : found i.answer = none) : i.Fails := by
  intro value hgives
  rw [found_eq_some_iff.mpr hgives] at h
  cases h

theorem Inquiry.fetched_of_fails {i : Inquiry} (h : i.Fails) : i.fetched = none := by
  cases hfound : found i.answer with
  | none => rw [Inquiry.fetched, hfound, Option.map_none]
  | some value => exact absurd (found_eq_some_iff.mp hfound) (h value)

theorem Inquiry.fetched_of_gives {i : Inquiry} (h : Gives i.answer value) :
    i.fetched = some ⟨value, i.answeredAt⟩ := by
  rw [Inquiry.fetched, found_eq_some_iff.mpr h, Option.map_some]

/-! ### One lookup -/

/-- The address may be given at the time without asking. -/
def Young (last : Option Cached) (ttl now : Span) : Prop :=
  ∃ c, last = some c ∧ c.value ≠ "" ∧ now.nanos - c.foundAt.nanos < ttl.nanos

/-- The services are asked in order up to the first that gives an address; if none does, the value
is the last address. -/
inductive Asks (endpoints : List String) (last : Option Cached) : List Inquiry → String → Prop
  | finds {others : List Inquiry} {i : Inquiry} {value : String}
    (order : (others ++ [i]).map Inquiry.call <+: endpoints.filterMap callTo)
    (fail : ∀ j ∈ others, j.Fails) (gives : Gives i.answer value) :
    Asks endpoints last (others ++ [i]) value
  | fails {inquiries : List Inquiry}
    (order : inquiries.map Inquiry.call = endpoints.filterMap callTo)
    (fail : ∀ i ∈ inquiries, i.Fails) : Asks endpoints last inquiries (lastValue last)

namespace Asks

variable {endpoint : String} {inquiries : List Inquiry} {i : Inquiry}

theorem of_no_call (hcall : callTo endpoint = none) (h : Asks endpoints last inquiries value) :
    Asks (endpoint :: endpoints) last inquiries value := by
  cases h with
  | finds order fail gives => exact .finds (by rwa [List.filterMap_cons_none hcall]) fail gives
  | fails order fail => exact .fails (by rwa [List.filterMap_cons_none hcall]) fail

theorem of_first (hcall : callTo endpoint = some i.call) (h : Gives i.answer value) :
    Asks (endpoint :: endpoints) last [i] value := by
  have order : ([] ++ [i]).map Inquiry.call <+: (endpoint :: endpoints).filterMap callTo := by
    rw [List.filterMap_cons_some hcall]
    exact List.prefix_append [i.call] _
  exact .finds order (fun j hj => by cases hj) h

theorem of_later (hcall : callTo endpoint = some i.call) (hi : i.Fails)
    (h : Asks endpoints last inquiries value) :
    Asks (endpoint :: endpoints) last (i :: inquiries) value := by
  cases h with
  | @finds others j _ order fail gives =>
    have order' : (i :: others ++ [j]).map Inquiry.call <+:
        (endpoint :: endpoints).filterMap callTo := by
      rw [List.filterMap_cons_some hcall]
      exact (List.prefix_cons_inj i.call).mpr order
    exact .finds order' (List.forall_mem_cons.mpr ⟨hi, fail⟩) gives
  | fails order fail =>
    refine .fails ?_ (List.forall_mem_cons.mpr ⟨hi, fail⟩)
    rw [List.filterMap_cons_some hcall, List.map_cons, order]

theorem fetched_cases (h : Asks endpoints last inquiries value) :
    (∃ others i, inquiries = others ++ [i] ∧ Gives i.answer value ∧
      inquiries.filterMap Inquiry.fetched = [⟨value, i.answeredAt⟩]) ∨
      (∀ i ∈ inquiries, i.Fails) ∧ value = lastValue last ∧
        inquiries.filterMap Inquiry.fetched = [] := by
  cases h with
  | @finds others i _ order fail gives =>
    refine .inl ⟨others, i, rfl, gives, ?_⟩
    have hothers : others.filterMap Inquiry.fetched = [] :=
      List.filterMap_eq_nil_iff.mpr fun j hj => Inquiry.fetched_of_fails (fail j hj)
    rw [List.filterMap_append, hothers, List.nil_append,
      List.filterMap_cons_some (Inquiry.fetched_of_gives gives), List.filterMap_nil]
  | fails order fail =>
    exact .inr ⟨fail, rfl,
      List.filterMap_eq_nil_iff.mpr fun j hj => Inquiry.fetched_of_fails (fail j hj)⟩

theorem eq_nil_iff (h : Asks endpoints last inquiries value) :
    inquiries = [] ↔ endpoints.filterMap callTo = [] := by
  cases h with
  | finds order =>
    constructor
    · intro h
      exact absurd h (by simp)
    · intro h
      rw [h, List.prefix_nil, List.map_eq_nil_iff] at order
      exact order
  | fails order => rw [← order, List.map_eq_nil_iff]

end Asks

def Visit.fetched (v : Visit) : List Cached :=
  v.inquiries.filterMap Inquiry.fetched

/-- The visit is one in these surroundings, after visits of which this was the last address
fetched. -/
structure Visit.Follows (v : Visit) (e : Encounter) (endpoints : List String) (ttl : Span)
    (last : Option Cached) : Prop where
  begun : v.begunAt = e.begunAt
  answered : ∀ n i, v.inquiries[n]? = some i → i.answer = e.answer n ∧
    i.answeredAt = e.answeredAt n
  young : Young last ttl v.begunAt → v.inquiries = [] ∧ v.value = lastValue last
  old : ¬ Young last ttl v.begunAt → Asks endpoints last v.inquiries v.value

namespace Resolver

theorem start_cases (cache : Option Cached) (endpoints : List String) (ttl now : Span) :
    Young cache ttl now ∧ Lookup.start cache endpoints ttl now = .done (lastValue cache) ∨
      ¬ Young cache ttl now ∧ Lookup.start cache endpoints ttl now = .asking endpoints := by
  cases cache with
  | none =>
    refine .inr ⟨?_, rfl⟩
    rintro ⟨_, h, -⟩
    cases h
  | some c =>
    have hyoung : Young (some c) ttl now ↔ c.isFresh ttl now = true := by
      simp [Young, Cached.isFresh]
    cases hfresh : c.isFresh ttl now with
    | true => exact .inl ⟨hyoung.mpr hfresh, by rw [Lookup.start, if_pos hfresh, lastValue]⟩
    | false =>
      have hnot : ¬ c.isFresh ttl now = true := Bool.eq_false_iff.mp hfresh
      exact .inr ⟨mt hyoung.mp hnot, by rw [Lookup.start, if_neg hnot]⟩

/-! #### The services in turn -/

section

variable {endpoint : String} {rest : List String} {call : Http.Call}

theorem ask_of_no_call (hcall : callTo endpoint = none) :
    ask cache e (endpoint :: rest) = ask cache e rest := by
  simp only [ask, hcall]

theorem ask_of_found (hcall : callTo endpoint = some call)
    (hfound : found (e.answer 0) = some value) :
    ask cache e (endpoint :: rest) =
      (some ⟨value, e.answeredAt 0⟩, [⟨call, e.answer 0, e.answeredAt 0⟩], value) := by
  simp only [ask, hcall, Lookup.answered, hfound]

theorem ask_of_not_found (hcall : callTo endpoint = some call)
    (hfound : found (e.answer 0) = none) :
    ask cache e (endpoint :: rest) =
      ((ask cache e.later rest).1,
        ⟨call, e.answer 0, e.answeredAt 0⟩ :: (ask cache e.later rest).2.1,
        (ask cache e.later rest).2.2) := by
  simp only [ask, hcall, Lookup.answered, hfound]

end

/-- What is asked and given, and that an address is kept as soon as it is fetched. -/
theorem ask_spec (cache : Option Cached) (e : Encounter) (endpoints : List String) :
    Asks endpoints cache (ask cache e endpoints).2.1 (ask cache e endpoints).2.2 ∧
      (ask cache e endpoints).1 =
        (((ask cache e endpoints).2.1.filterMap Inquiry.fetched).getLast?).or cache := by
  induction endpoints generalizing e with
  | nil => exact ⟨.fails rfl (fun i hi => by cases hi), rfl⟩
  | cons endpoint rest ih =>
    cases hcall : callTo endpoint with
    | none =>
      rw [ask_of_no_call hcall]
      exact ⟨(ih e).1.of_no_call hcall, (ih e).2⟩
    | some call =>
      cases hfound : found (e.answer 0) with
      | some value =>
        have hgives : Gives (e.answer 0) value := found_eq_some_iff.mp hfound
        rw [ask_of_found hcall hfound]
        refine ⟨.of_first hcall hgives, ?_⟩
        rw [List.filterMap_cons_some (Inquiry.fetched_of_gives hgives)]
        rfl
      | none =>
        have hfails : Inquiry.Fails ⟨call, e.answer 0, e.answeredAt 0⟩ :=
          Inquiry.fails_of_found hfound
        rw [ask_of_not_found hcall hfound]
        refine ⟨(ih e.later).1.of_later hcall hfails, ?_⟩
        rw [List.filterMap_cons_none (Inquiry.fetched_of_fails hfails)]
        exact (ih e.later).2

theorem answered_ask (cache : Option Cached) (e : Encounter) (endpoints : List String) (n : Nat)
    (i : Inquiry) (h : (ask cache e endpoints).2.1[n]? = some i) :
    i.answer = e.answer n ∧ i.answeredAt = e.answeredAt n := by
  induction endpoints generalizing e n with
  | nil => cases h
  | cons endpoint rest ih =>
    cases hcall : callTo endpoint with
    | none =>
      rw [ask_of_no_call hcall] at h
      exact ih e n h
    | some call =>
      cases hfound : found (e.answer 0) with
      | some value =>
        rw [ask_of_found hcall hfound] at h
        cases n with
        | zero =>
          cases h
          exact ⟨rfl, rfl⟩
        | succ n => cases h
      | none =>
        rw [ask_of_not_found hcall hfound] at h
        cases n with
        | zero =>
          cases h
          exact ⟨rfl, rfl⟩
        | succ n => exact ih e.later n h

/-- A lookup follows what is kept, and keeps the address that it fetches. -/
theorem lookup_spec (r : Resolver) (e : Encounter) :
    (r.lookup e).2.Follows e r.endpoints r.ttl r.cache ∧
      (r.lookup e).1 = { r with cache := ((r.lookup e).2.fetched.getLast?).or r.cache } := by
  unfold lookup
  obtain ⟨hyoung, hstart⟩ | ⟨hold, hstart⟩ := start_cases r.cache r.endpoints r.ttl e.begunAt
  · rw [hstart]
    exact ⟨⟨rfl, fun n i h => (by cases h), fun _ => ⟨rfl, rfl⟩, fun h => absurd hyoung h⟩, rfl⟩
  · rw [hstart]
    obtain ⟨hasks, hcache⟩ := ask_spec r.cache e r.endpoints
    exact ⟨⟨rfl, answered_ask _ _ _, fun h => absurd h hold, fun _ => hasks⟩,
      congrArg (Resolver.mk _ _) hcache⟩

end Resolver

/-! ### What a visit gives -/

theorem isAddress_of_fetched {i : Inquiry} {c : Cached} (h : i.fetched = some c) :
    (Address.Ip.ofText? c.value).isSome := by
  obtain ⟨value, hfound, rfl⟩ := Option.map_eq_some_iff.mp h
  obtain ⟨r, -, -, -, hip⟩ := found_eq_some_iff.mp hfound
  exact hip

theorem ne_empty_of_isAddress (h : (Address.Ip.ofText? value).isSome) : value ≠ "" := by
  rintro rfl
  revert h
  decide

namespace Visit.Follows

variable {v : Visit}

/-- A visit fetches one address and gives it, or gives the last one. -/
theorem fetched_cases (h : v.Follows e endpoints ttl last) :
    (∃ others i, v.inquiries = others ++ [i] ∧ Gives i.answer v.value ∧
      v.fetched = [⟨v.value, i.answeredAt⟩]) ∨
      (∀ i ∈ v.inquiries, i.Fails) ∧ v.value = lastValue last ∧ v.fetched = [] := by
  by_cases hyoung : Young last ttl v.begunAt
  · obtain ⟨hnone, hvalue⟩ := h.young hyoung
    refine .inr ⟨fun i hi => ?_, hvalue, ?_⟩
    · rw [hnone] at hi
      cases hi
    · rw [Visit.fetched, hnone, List.filterMap_nil]
  · exact (h.old hyoung).fetched_cases

/-- A visit asks nothing exactly when the last address is young or there is no service to ask. -/
theorem inquiries_eq_nil_iff (h : v.Follows e endpoints ttl last) :
    v.inquiries = [] ↔ Young last ttl e.begunAt ∨ endpoints.filterMap callTo = [] := by
  rw [← h.begun]
  by_cases hyoung : Young last ttl v.begunAt
  · exact iff_of_true (h.young hyoung).1 (.inl hyoung)
  · rw [(h.old hyoung).eq_nil_iff]
    exact ⟨.inr, fun h => h.resolve_left hyoung⟩

theorem isAddress (h : v.Follows e endpoints ttl last)
    (hlast : ∀ c, last = some c → (Address.Ip.ofText? c.value).isSome) :
    v.value = "" ∧ last = none ∨ (Address.Ip.ofText? v.value).isSome := by
  obtain ⟨others, i, -, ⟨r, -, -, -, hip⟩, -⟩ | ⟨-, hvalue, -⟩ := h.fetched_cases
  · exact .inr hip
  · rw [hvalue]
    cases last with
    | none => exact .inl ⟨rfl, rfl⟩
    | some c => exact .inr (hlast c rfl)

end Visit.Follows

/-! ### Runs of lookups -/

/-- The last address that was fetched, and when. -/
def lastFetched (visits : List Visit) : Option Cached :=
  (visits.flatMap Visit.fetched).getLast?

theorem lastFetched_concat (visits : List Visit) (v : Visit) :
    lastFetched (visits ++ [v]) = (v.fetched.getLast?).or (lastFetched visits) := by
  rw [lastFetched, List.flatMap_append, List.flatMap_singleton, List.getLast?_append]
  rfl

theorem isAddress_lastFetched {visits : List Visit} {c : Cached}
    (h : lastFetched visits = some c) : (Address.Ip.ofText? c.value).isSome := by
  obtain ⟨v, -, hv⟩ := List.mem_flatMap.mp (List.mem_of_getLast? h)
  obtain ⟨i, -, hi⟩ := List.mem_filterMap.mp hv
  exact isAddress_of_fetched hi

namespace Resolver

theorem run_concat (r : Resolver) (encounters : List Encounter) (e : Encounter) :
    r.run (encounters ++ [e]) = (((r.run encounters).1.lookup e).1,
      (r.run encounters).2 ++ [((r.run encounters).1.lookup e).2]) := by
  induction encounters generalizing r with
  | nil => rfl
  | cons e' encounters ih => simp only [List.cons_append, run, ih]

theorem run_new (endpoints : List String) (ttl : Span) (encounters : List Encounter) :
    ((new endpoints ttl).run encounters).1 =
      ⟨endpoints, ttl, lastFetched ((new endpoints ttl).run encounters).2⟩ := by
  induction encounters using List.reverseRecOn with
  | nil => rfl
  | append_singleton encounters e ih =>
    rw [run_concat, lastFetched_concat, (lookup_spec _ e).2, ih]

theorem follows_of_run (endpoints : List String) (ttl : Span) (earlier : List Encounter)
    (e : Encounter) :
    ((((new endpoints ttl).run earlier).1.lookup e).2).Follows e endpoints ttl
      (lastFetched ((new endpoints ttl).run earlier).2) := by
  have h := (lookup_spec ((new endpoints ttl).run earlier).1 e).1
  rwa [run_new endpoints ttl earlier] at h ⊢

theorem lastFetched_of_value (endpoints : List String) (ttl : Span) (encounters : List Encounter) :
    ∀ v ∈ ((new endpoints ttl).run encounters).2, v.value ≠ "" →
      lastFetched ((new endpoints ttl).run encounters).2 ≠ none := by
  induction encounters using List.reverseRecOn with
  | nil =>
    intro v hv
    cases hv
  | append_singleton encounters e ih =>
    intro v hv hvalue
    rw [run_concat] at hv ⊢
    rw [lastFetched_concat, ne_eq, Option.or_eq_none_iff]
    rintro ⟨hfetched, hlast⟩
    rcases List.mem_append.mp hv with hv | hv
    · exact ih v hv hvalue hlast
    · obtain rfl := List.mem_singleton.mp hv
      obtain ⟨_, _, -, -, hone⟩ | ⟨-, hlastValue, -⟩ :=
        (follows_of_run endpoints ttl encounters e).fetched_cases
      · rw [hone] at hfetched
        cases hfetched
      · rw [hlast] at hlastValue
        exact hvalue hlastValue

/-- Whatever came before, a lookup gives the last address fetched while it is young, and asks the
services otherwise. It gives an address or nothing at all, and an address once one was given; unless
a service gives one, it leaves the resolver with what it kept, as old as it was. -/
theorem lookup_follows (endpoints : List String) (ttl : Span) (earlier : List Encounter)
    (e : Encounter) :
    let before := (new endpoints ttl).run earlier
    let after := before.1.lookup e
    after.2.Follows e endpoints ttl (lastFetched before.2) ∧
      (after.2.inquiries = [] ↔ Young (lastFetched before.2) ttl e.begunAt ∨
        endpoints.filterMap callTo = []) ∧
      (after.2.value = "" ∨ (Address.Ip.ofText? after.2.value).isSome) ∧
      (∀ v ∈ before.2, v.value ≠ "" → after.2.value ≠ "") ∧
      ((∀ i ∈ after.2.inquiries, i.Fails) → after.1 = before.1) := by
  intro before after
  have hfollows := follows_of_run endpoints ttl earlier e
  have haddress := hfollows.isAddress fun c hc => isAddress_lastFetched hc
  refine ⟨hfollows, hfollows.inquiries_eq_nil_iff, haddress.imp_left And.left,
    fun v hv hvalue => ?_, fun hfail => ?_⟩
  · obtain ⟨-, hlast⟩ | hip := haddress
    · exact absurd hlast (lastFetched_of_value endpoints ttl earlier v hv hvalue)
    · exact ne_empty_of_isAddress hip
  · have hnone : after.2.fetched = [] :=
      List.filterMap_eq_nil_iff.mpr fun i hi => Inquiry.fetched_of_fails (hfail i hi)
    have hafter := (lookup_spec before.1 e).2
    rw [hnone] at hafter
    exact hafter

end Resolver

end HostAlert.PublicIp

namespace HostAlert.Rehearsal

open PublicIp

/-! ### Lookups against a scripted peer -/

def preceding (answer : Http.Answer) (now : Span) (e : Encounter) : Encounter :=
  ⟨e.begunAt, fun n => n.casesOn answer e.answer, fun n => n.casesOn now e.answeredAt⟩

theorem exists_encounter_ask (peer : Peer) (cache : Option Cached) (now : Span)
    (endpoints : List String) : ∃ e : Encounter, e.begunAt = now ∧
    (ask peer cache now endpoints).2 =
      ((Resolver.ask cache e endpoints).1, (Resolver.ask cache e endpoints).2.2) ∧
    (ask peer cache now endpoints).1.seen = peer.seen ++
      ((Resolver.ask cache e endpoints).2.1.map Inquiry.call).filter peer.receives := by
  induction endpoints generalizing peer with
  | nil => exact ⟨⟨now, fun _ => .failed, fun _ => now⟩, rfl, rfl, (List.append_nil _).symm⟩
  | cons endpoint rest ih =>
    cases hcall : callTo endpoint with
    | none =>
      obtain ⟨e, hbegun, hresult, hseen⟩ := ih peer
      refine ⟨e, hbegun, ?_⟩
      rw [ask, hcall, Resolver.ask_of_no_call hcall]
      exact ⟨hresult, hseen⟩
    | some call =>
      obtain ⟨e, hbegun, hresult, hseen⟩ := ih (peer.take call).1
      refine ⟨preceding (peer.take call).2.1 now e, hbegun, ?_⟩
      cases hfound : found (peer.take call).2.1 with
      | some value =>
        rw [Resolver.ask_of_found hcall hfound]
        simp only [ask, hcall, Lookup.answered, hfound]
        exact ⟨rfl, Peer.seen_take peer call⟩
      | none =>
        rw [Resolver.ask_of_not_found hcall hfound]
        simp only [ask, hcall, Lookup.answered, hfound]
        refine ⟨hresult, hseen.trans ?_⟩
        rw [Peer.receives_take, Peer.seen_take, List.append_assoc, ← List.filter_append]
        rfl

/-- A search against a scripted peer is a lookup of a resolver in some surroundings, and the peer
sees those of its requests that reach it. -/
theorem exists_encounter (peer : Peer) (cache : Option Cached) (endpoints : List String)
    (ttl now : Span) : ∃ e : Encounter, e.begunAt = now ∧
    (lookup peer cache endpoints ttl now).2 =
      (((Resolver.mk endpoints ttl cache).lookup e).1.cache,
        ((Resolver.mk endpoints ttl cache).lookup e).2.value) ∧
    (lookup peer cache endpoints ttl now).1.seen = peer.seen ++
      ((((Resolver.mk endpoints ttl cache).lookup e).2.inquiries.map Inquiry.call).filter
        peer.receives) := by
  obtain ⟨e, rfl, hresult, hseen⟩ := exists_encounter_ask peer cache now endpoints
  refine ⟨e, rfl, ?_⟩
  obtain ⟨-, hstart⟩ | ⟨-, hstart⟩ := Resolver.start_cases cache endpoints ttl e.begunAt
  · rw [lookup, Resolver.lookup, hstart]
    exact ⟨rfl, (List.append_nil _).symm⟩
  · rw [lookup, Resolver.lookup, hstart]
    exact ⟨hresult, hseen⟩

end HostAlert.Rehearsal
