import HostAlert.Proofs.Control.Guard

/-!
# Which handler a request gets to

The guard and the answer to preflight requests stand before the endpoints. `Policy.handler?` is the
endpoint that a request gets to if neither of the two answers it. A request that the policy does
not admit gets to none, changes nothing and is refused (`Session.turned_away`).
-/

namespace HostAlert.Control

namespace Policy

variable {p : Policy} {r : Request} {e : Endpoint}

/-- The request presents the token that is required, if one is. -/
def Admits (p : Policy) (r : Request) : Prop :=
  ∀ token, p.token = some token → Guard.Presents token r

theorem refusal?_eq_none_iff : p.refusal? r = none ↔ p.Admits r := by
  unfold refusal? Admits
  cases p.token with
  | none => simp
  | some token => simp [Guard.refusal?_eq_none_iff]

/-- The endpoint whose handler a request gets to; none if it is answered before. -/
def handler? (p : Policy) (r : Request) : Option Endpoint :=
  if (p.refusal? r).isSome || p.isPreflight r then none
  else (Endpoint.ofPath? r.path).filter fun e => e.methods.contains r.method

theorem handler?_eq_some_iff : p.handler? r = some e ↔ p.Admits r ∧ p.isPreflight r = false ∧
    Endpoint.ofPath? r.path = some e ∧ e.methods.contains r.method = true := by
  rw [← refusal?_eq_none_iff, handler?]
  cases hrefusal : p.refusal? r with
  | some refusal => simp
  | none =>
    cases p.isPreflight r with
    | true => simp
    | false => simp [Option.filter_eq_some_iff]

theorem handler?_of_not_admits (h : ¬ p.Admits r) : p.handler? r = none :=
  Option.eq_none_iff_forall_ne_some.mpr fun _ he => h (handler?_eq_some_iff.mp he).1

end Policy

variable {p : Policy} {r : Request} {e : Endpoint}

/-- A request that gets to a handler is dealt with by it. -/
theorem plan_of_handler (h : p.handler? r = some e) (wording : Json.Wording) :
    (plan p wording r).action = e.action wording r := by
  obtain ⟨hadmits, hpreflight, hpath, hmethod⟩ := Policy.handler?_eq_some_iff.mp h
  unfold plan
  rw [Policy.refusal?_eq_none_iff.mpr hadmits]
  simp only [hpreflight, Bool.false_eq_true, if_false, endpointAction, hpath, hmethod, if_true]

theorem plan_of_no_handler (h : p.handler? r = none) (wording : Json.Wording) :
    ∃ response, (plan p wording r).action = .respond response := by
  unfold plan
  cases hrefusal : p.refusal? r with
  | some refusal => exact ⟨_, rfl⟩
  | none =>
    cases hpreflight : p.isPreflight r with
    | true => exact ⟨preflight, rfl⟩
    | false =>
      simp only [Bool.false_eq_true, if_false, endpointAction]
      cases hpath : Endpoint.ofPath? r.path with
      | none => exact ⟨_, rfl⟩
      | some e =>
        by_cases hmethod : e.methods.contains r.method = true
        · have hadmits := Policy.refusal?_eq_none_iff.mp hrefusal
          rw [Policy.handler?_eq_some_iff.mpr ⟨hadmits, hpreflight, hpath, hmethod⟩] at h
          cases h
        · exact ⟨_, if_neg hmethod⟩

theorem dropsBody_of_method (h : r.method ≠ "HEAD") : dropsBody r = false :=
  Bool.eq_false_iff.mpr fun drops => h (method_of_dropsBody drops)

theorem dropsBody_plan (p : Policy) (wording : Json.Wording) (r : Request) :
    (plan p wording r).dropsBody = dropsBody r := by
  unfold plan
  split
  · rfl
  · split <;> rfl

theorem Response.status_sent (response : Response) (method : String) :
    (response.sent method).status = response.status := by
  unfold sent
  split <;> rfl

end HostAlert.Control

namespace HostAlert.Rehearsal.Session

open Control

variable {p : Policy} {r : Request} {e : Endpoint}

/-- The answer of a handler is what comes of its action. -/
theorem serve_of_handler (h : p.handler? r = some e) (wording : Json.Wording) (s : Session) :
    (s.serve p wording r).1 = (s.perform wording (e.action wording r)).1 ∧
      (s.serve p wording r).2.status = (s.perform wording (e.action wording r)).2.status ∧
      (s.serve p wording r).2.body =
        if dropsBody r then .empty else (s.perform wording (e.action wording r)).2.body := by
  have haction := plan_of_handler h wording
  unfold serve
  simp only [haction, Plan.status_finish, Plan.body_finish, dropsBody_plan, and_self]

/-- A request that the policy does not admit gets to no handler, changes nothing and is refused. -/
theorem turned_away (h : ¬ p.Admits r) (wording : Json.Wording) (s : Session) :
    p.handler? r = none ∧ (s.serve p wording r).1 = s ∧
      ((s.serve p wording r).2.status = 401 ∨ (s.serve p wording r).2.status = 403) := by
  refine ⟨Policy.handler?_of_not_admits h, ?_⟩
  obtain ⟨token, cors⟩ := p
  cases token with
  | none => exact absurd (fun _ => nofun) h
  | some token =>
    have hrefused : ¬ Guard.Presents token r := fun presents =>
      h fun _ htoken => Option.some.inj htoken ▸ presents
    have guarded := guarded_serve token cors wording s r
    rw [guarded.untouched hrefused, guarded.status hrefused]
    exact ⟨rfl, Guard.Refusal.verdict_status _⟩

end HostAlert.Rehearsal.Session
