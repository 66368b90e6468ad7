import HostAlert.Proofs.Control.Handler

/-!
# Requests from other origins

With the cross-origin rules on, every response to a request that the guard lets through can be read
by other origins, and a preflight request among them is answered that everything is allowed
(`Session.readable_of_admits`). The guard stands before these rules: a preflight request without
the required token is refused, as any other request without it.
-/

namespace HostAlert.Control

def allowMethods : String × String := ("access-control-allow-methods", "*")

/-- A request in which a browser asks what a page of another origin may do. -/
structure Request.IsPreflight (r : Request) : Prop where
  method : r.method = "OPTIONS"
  origin : (r.header? "origin").isSome = true
  asked : (r.header? "access-control-request-method").isSome = true

structure Response.AllowsAll (response : Response) : Prop where
  status : response.status = 200
  origin : allowOrigin ∈ response.headers
  methods : allowMethods ∈ response.headers

variable {token : Option String} {r : Request}

theorem Plan.headers_finish (p : Plan) (response : Response) :
    (p.finish response).headers = response.headers ++ p.added := by
  unfold finish
  split <;> rfl

theorem Response.headers_sent (response : Response) (method : String) :
    (response.sent method).headers = response.headers := by
  unfold sent
  split <;> rfl

/-- The way of a preflight request that is let through. -/
theorem plan_of_preflight (admits : (Policy.mk token true).Admits r) (method : r.method = "OPTIONS")
    (wording : Json.Wording) :
    plan ⟨token, true⟩ wording r = ⟨.respond preflight, allowed r, dropsBody r⟩ := by
  have hpreflight : (Policy.mk token true).isPreflight r = true := by
    rw [Policy.isPreflight, method]
    rfl
  unfold plan
  rw [Policy.refusal?_eq_none_iff.mpr admits]
  simp only [hpreflight, if_true]

/-- Any other request that is let through has the header that lets other origins read the response
added to it. -/
theorem added_of_admits (admits : (Policy.mk token true).Admits r) (method : r.method ≠ "OPTIONS")
    (wording : Json.Wording) : allowOrigin ∈ (plan ⟨token, true⟩ wording r).added := by
  have hpreflight : (Policy.mk token true).isPreflight r = false := by
    simp [Policy.isPreflight, method]
  unfold plan
  rw [Policy.refusal?_eq_none_iff.mpr admits]
  simp [hpreflight]

end HostAlert.Control

namespace HostAlert.Rehearsal

open Control

namespace Session

variable {token : Option String} {r : Request}

theorem serve_preflight (admits : (Policy.mk token true).Admits r) (method : r.method = "OPTIONS")
    (wording : Json.Wording) (s : Session) :
    (s.serve ⟨token, true⟩ wording r).2.AllowsAll := by
  unfold serve
  rw [plan_of_preflight admits method]
  refine ⟨Plan.status_finish _ _, ?_, ?_⟩
  · rw [Plan.headers_finish]
    exact List.mem_append_left _ (show allowOrigin ∈ preflight.headers by decide)
  · rw [Plan.headers_finish]
    exact List.mem_append_left _ (show allowMethods ∈ preflight.headers by decide)

theorem allowOrigin_mem_serve (admits : (Policy.mk token true).Admits r) (wording : Json.Wording)
    (s : Session) : allowOrigin ∈ (s.serve ⟨token, true⟩ wording r).2.headers := by
  by_cases method : r.method = "OPTIONS"
  · exact (serve_preflight admits method wording s).origin
  · unfold serve
    rw [Plan.headers_finish]
    exact List.mem_append_right _ (added_of_admits admits method wording)

/-- With the cross-origin rules on, other origins may read the response to every request that the
guard lets through, from the router itself and over a connection, and a preflight request among
them is told that everything is allowed, whatever its path. A request that the guard does not let
through is refused, a preflight request like any other. -/
theorem readable_of_admits (token : Option String) (wording : Json.Wording) (s : Session)
    (r : Request) :
    ((Policy.mk token true).Admits r →
      allowOrigin ∈ (s.serve ⟨token, true⟩ wording r).2.headers ∧
      (r.IsPreflight → (s.serve ⟨token, true⟩ wording r).2.AllowsAll)) ∧
    (∀ r', r.received = .ok r' → (Policy.mk token true).Admits r' →
      allowOrigin ∈ (s.serveConnection ⟨token, true⟩ wording r).2.headers ∧
      (r'.IsPreflight → (s.serveConnection ⟨token, true⟩ wording r).2.AllowsAll)) ∧
    (¬ (Policy.mk token true).Admits r →
      (s.serve ⟨token, true⟩ wording r).2.status = 401 ∨
      (s.serve ⟨token, true⟩ wording r).2.status = 403) := by
  refine ⟨fun admits => ⟨allowOrigin_mem_serve admits wording s, fun preflight =>
    serve_preflight admits preflight.method wording s⟩, fun r' received admits => ?_,
    fun refused => (turned_away refused wording s).2.2⟩
  rw [serveConnection_of_received received]
  refine ⟨?_, fun preflight => ?_⟩
  · rw [Response.headers_sent]
    exact allowOrigin_mem_serve admits wording s
  · obtain ⟨hstatus, horigin, hmethods⟩ := serve_preflight admits preflight.method wording s
    refine ⟨?_, ?_, ?_⟩
    · rw [Response.status_sent, hstatus]
    · rw [Response.headers_sent]
      exact horigin
    · rw [Response.headers_sent]
      exact hmethods

end Session

namespace Sample

def exploring (headers : List (String × Bytes)) : Request :=
  ⟨"OPTIONS", "/control/notifications/telegram",
    [("origin", utf8 "http://a.example"), ("access-control-request-method", utf8 "PUT")] ++ headers,
    []⟩

theorem exploring_with_token :
    (quiet.serve ⟨some "s", true⟩ unworded (exploring [bearer])).2.AllowsAll := by
  obtain ⟨through, -⟩ := Session.readable_of_admits (some "s") unworded quiet (exploring [bearer])
  refine (through fun token htoken => ?_).2 ⟨rfl, ?_, ?_⟩
  · obtain rfl := Option.some.inj htoken
    exact .bearer (utf8 "Bearer s") (by decide +kernel) (by decide +kernel) (by decide +kernel)
  · decide +kernel
  · decide +kernel

/-- A preflight request, which comes without the required token, is not told so. -/
theorem exploring_refused : ¬ ∀ (token : Option String) (wording : Json.Wording) (s : Session)
    (r : Request), r.IsPreflight → (s.serve ⟨token, true⟩ wording r).2.AllowsAll := by
  intro h
  have hpreflight : (exploring []).IsPreflight := ⟨rfl, by decide +kernel, by decide +kernel⟩
  have hrefused : ¬ (Policy.mk (some "s") true).Admits (exploring []) := by
    rw [← Policy.refusal?_eq_none_iff]
    decide +kernel
  have hstatus := (h (some "s") unworded quiet (exploring []) hpreflight).status
  obtain h401 | h403 := (Session.turned_away hrefused unworded quiet).2.2
  · rw [h401] at hstatus
    cases hstatus
  · rw [h403] at hstatus
    cases hstatus

end Sample

end HostAlert.Rehearsal
