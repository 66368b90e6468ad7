import HostAlert.Rehearsal.Control

/-!
# What the token guard lets through

A request presents the required token in its secret header, or in its authorization header if it
has no secret one (`Guard.Presents`). It is then answered as if no token were required. Any other
request changes nothing and is refused, with a status and a text that its headers alone decide;
only a response to `HEAD` may come without the text (`Session.guard_factors_out`).
-/

namespace HostAlert.Control

namespace Guard

/-- The request presents the token. -/
inductive Presents (token : String) (r : Request) : Prop
  | secret (value : Bytes) (has : r.header? secretHeader = some value)
      (reads : Request.readable? value = some token.toList)
  | bearer (value : Bytes) (lacks : r.header? secretHeader = none)
      (has : r.header? authorizationHeader = some value)
      (reads : Request.readable? value = some ("Bearer ".toList ++ token.toList))

theorem stripFront_eq_some_iff {front s rest : List Char} :
    stripFront front s = some rest ↔ s = front ++ rest := by
  induction front generalizing s with
  | nil => simp [stripFront]
  | cons c front ih =>
    cases s with
    | nil => simp [stripFront]
    | cons d s =>
      rw [stripFront, List.cons_append, List.cons.injEq]
      by_cases h : c = d
      · rw [if_pos h, ih]
        simp [h]
      · rw [if_neg h]
        simp [Ne.symm h]

variable {token : String} {r : Request}

theorem presented_eq_ok_iff : presented r = .ok token.toList ↔ Presents token r := by
  unfold presented
  constructor
  · intro h
    split at h
    · next value hsecret =>
      split at h
      · next text hread =>
        cases h
        exact .secret value hsecret hread
      · cases h
    · next hsecret =>
      split at h
      · cases h
      · next text hauth =>
        obtain ⟨value, hvalue, hread⟩ := Option.bind_eq_some_iff.mp hauth
        split at h
        · next rest hstrip =>
          cases h
          exact .bearer value hsecret hvalue (hread.trans (congrArg some
            (stripFront_eq_some_iff.mp hstrip)))
        · cases h
  · rintro (⟨value, hsecret, hread⟩ | ⟨value, hsecret, hauth, hread⟩)
    · rw [hsecret]
      dsimp only
      rw [hread]
    · have hstrip : stripFront "Bearer ".toList ("Bearer ".toList ++ token.toList) =
          some token.toList :=
        stripFront_eq_some_iff.mpr rfl
      rw [hsecret, hauth, Option.bind_some, hread]
      dsimp only
      rw [hstrip]

/-- The guard refuses the requests that do not present the token, and no others. -/
theorem refusal?_eq_none_iff : refusal? token r = none ↔ Presents token r := by
  rw [← presented_eq_ok_iff]
  unfold refusal?
  cases presented r with
  | error e => simp
  | ok given => simp

/-- A secret header that does not hold the token is not made up for by another header. -/
theorem not_presents_of_secret {value : Bytes} (has : r.header? secretHeader = some value)
    (wrong : Request.readable? value ≠ some token.toList) : ¬ Presents token r := by
  rintro (⟨value', hsecret, hread⟩ | ⟨value', hsecret, -, -⟩)
  · rw [has] at hsecret
    cases hsecret
    exact wrong hread
  · rw [has] at hsecret
    cases hsecret

def Refusal.verdict : Refusal → Nat × String
  | missing => (401, "Missing Authorization header")
  | unreadable => (401, "Invalid Authorization format (expected: Bearer <token>)")
  | wrong => (403, "Invalid token")

theorem Refusal.response_eq (e : Refusal) : e.response = .ofText e.verdict.1 e.verdict.2 := by
  cases e <;> rfl

theorem Refusal.verdict_status (e : Refusal) : e.verdict.1 = 401 ∨ e.verdict.1 = 403 := by
  cases e
  · exact .inl rfl
  · exact .inl rfl
  · exact .inr rfl

def verdict (token : String) (headers : List (String × Bytes)) : Nat × String :=
  ((refusal? token ⟨"", "", headers, []⟩).getD .missing).verdict

theorem verdict_of_refusal {e : Refusal} (h : refusal? token r = some e) :
    verdict token r.headers = e.verdict := by
  have hsame : refusal? token ⟨"", "", r.headers, []⟩ = refusal? token r := rfl
  rw [verdict, hsame, h, Option.getD_some]

end Guard

/-! ### The way of a request -/

variable {token : String} {cors : Bool} {r : Request}

/-- A request that presents the token goes the way of one that need not. -/
theorem plan_of_presents (h : Guard.Presents token r) (wording : Json.Wording) :
    plan ⟨some token, cors⟩ wording r = plan ⟨none, cors⟩ wording r := by
  have hpass : (Policy.mk (some token) cors).refusal? r = none := Guard.refusal?_eq_none_iff.mpr h
  have hopen : (Policy.mk none cors).refusal? r = none := rfl
  unfold plan
  rw [hpass, hopen]
  rfl

/-- Any other request is answered at once. -/
theorem plan_of_refusal {e : Guard.Refusal} (h : Guard.refusal? token r = some e)
    (wording : Json.Wording) : plan ⟨some token, cors⟩ wording r =
      ⟨.respond e.response, allowed r, dropsBody r⟩ := by
  have hrefused : (Policy.mk (some token) cors).refusal? r = some e := h
  unfold plan
  rw [hrefused]

theorem method_of_dropsBody (h : dropsBody r = true) : r.method = "HEAD" := by
  rw [dropsBody, Bool.and_eq_true] at h
  exact beq_iff_eq.mp h.1

theorem Plan.body_finish (p : Plan) (r : Response) :
    (p.finish r).body = if p.dropsBody then .empty else r.body := by
  unfold finish
  split <;> rfl

theorem Plan.status_finish (p : Plan) (r : Response) : (p.finish r).status = r.status := by
  unfold finish
  split <;> rfl

end HostAlert.Control

namespace HostAlert.Rehearsal

open Control

/-- What becomes of a request, given the token that is required if one is. A request that presents
it is answered as if none were. Any other leaves the session as it is, and its answer is what the
guard says to its headers, without the text if the answer is silent. -/
structure Guarded (token : String) (s : Session) (r : Request) (silent : Bool)
    (answer : Option String → Session × Response) : Prop where
  passes : Guard.Presents token r → answer (some token) = answer none
  untouched : ¬ Guard.Presents token r → (answer (some token)).1 = s
  status : ¬ Guard.Presents token r →
    (answer (some token)).2.status = (Guard.verdict token r.headers).1
  body : ¬ Guard.Presents token r → (answer (some token)).2.body =
    if silent then .empty else .text (Guard.verdict token r.headers).2

namespace Session

variable {token : String} {cors : Bool} {r : Request}

theorem serve_of_presents (h : Guard.Presents token r) (wording : Json.Wording) (s : Session) :
    s.serve ⟨some token, cors⟩ wording r = s.serve ⟨none, cors⟩ wording r := by
  unfold serve
  rw [plan_of_presents h]

theorem serve_of_refusal {e : Guard.Refusal} (h : Guard.refusal? token r = some e)
    (wording : Json.Wording) (s : Session) :
    s.serve ⟨some token, cors⟩ wording r =
      (s, Plan.finish ⟨.respond e.response, allowed r, dropsBody r⟩ e.response) := by
  unfold serve
  rw [plan_of_refusal h]
  rfl

theorem guarded_serve (token : String) (cors : Bool) (wording : Json.Wording) (s : Session)
    (r : Request) : Guarded token s r (dropsBody r) fun t => s.serve ⟨t, cors⟩ wording r := by
  cases h : Guard.refusal? token r with
  | none =>
    have presents := Guard.refusal?_eq_none_iff.mp h
    exact ⟨fun _ => serve_of_presents presents wording s, absurd presents, absurd presents,
      absurd presents⟩
  | some e =>
    refine ⟨fun presents => ?_, fun _ => ?_, fun _ => ?_, fun _ => ?_⟩
    · rw [Guard.refusal?_eq_none_iff.mpr presents] at h
      cases h
    · rw [serve_of_refusal h]
    · rw [serve_of_refusal h, Plan.status_finish, Guard.verdict_of_refusal h, e.response_eq]
      rfl
    · rw [serve_of_refusal h, Plan.body_finish, Guard.verdict_of_refusal h, e.response_eq]
      rfl

theorem serveConnection_of_received {r' : Request} (h : r.received = .ok r') (policy : Policy)
    (wording : Json.Wording) (s : Session) : s.serveConnection policy wording r =
      ((s.serve policy wording r').1, (s.serve policy wording r').2.sent r'.method) := by
  unfold serveConnection
  rw [h]

theorem guarded_serveConnection (token : String) (cors : Bool) (wording : Json.Wording)
    (s : Session) {r' : Request} (h : r.received = .ok r') :
    Guarded token s r' (r'.method == "HEAD") fun t => s.serveConnection ⟨t, cors⟩ wording r := by
  have guarded := guarded_serve token cors wording s r'
  simp only [serveConnection_of_received h]
  refine ⟨fun presents => ?_, guarded.untouched, fun refused => ?_, fun refused => ?_⟩
  · rw [serve_of_presents presents]
  · rw [← guarded.status refused, Response.sent]
    split <;> rfl
  · rw [Response.sent]
    by_cases hhead : r'.method = "HEAD"
    · rw [if_pos hhead, if_pos (beq_iff_eq.mpr hhead)]
      rfl
    · rw [if_neg hhead, if_neg (mt beq_iff_eq.mp hhead), guarded.body refused,
        if_neg (mt method_of_dropsBody hhead)]

/-- With a required token, a request that presents it is answered as if none were required, and any
other is refused without an effect, with a status and a text that only its headers decide. The text
is left out where the endpoint of the path understands the method as `HEAD`, and over a connection
in every answer to `HEAD`. A secret header with anything else than the token is refused whatever
the authorization header holds. -/
theorem guard_factors_out (token : String) (cors : Bool) (wording : Json.Wording) (s : Session)
    (r : Request) :
    Guarded token s r (dropsBody r) (fun t => s.serve ⟨t, cors⟩ wording r) ∧
    (dropsBody r = true → r.method = "HEAD") ∧
    (∀ r', r.received = .ok r' → Guarded token s r' (r'.method == "HEAD") fun t =>
      s.serveConnection ⟨t, cors⟩ wording r) ∧
    (∀ status, r.received = .error status →
      s.serveConnection ⟨some token, cors⟩ wording r =
        s.serveConnection ⟨none, cors⟩ wording r) ∧
    ((Guard.verdict token r.headers).1 = 401 ∨ (Guard.verdict token r.headers).1 = 403) ∧
    ∀ value, r.header? Guard.secretHeader = some value →
      Request.readable? value ≠ some token.toList → ¬ Guard.Presents token r := by
  refine ⟨guarded_serve token cors wording s r, method_of_dropsBody, fun r' h =>
    guarded_serveConnection token cors wording s h, fun status h => ?_,
    Guard.Refusal.verdict_status _, fun value => Guard.not_presents_of_secret⟩
  unfold serveConnection
  rw [h]

end Session

namespace Sample

def quiet : Session :=
  .start .initial Peer.base .empty ⟨true, [], []⟩ ⟨0⟩

def unworded : Json.Wording := fun _ => ""

def asking (headers : List (String × Bytes)) : Request :=
  ⟨"GET", "/control/health", headers, []⟩

def bearer : String × Bytes := (Guard.authorizationHeader, utf8 "Bearer s")

/-- A request with the token in the authorization header passes, but not with a wrong secret header
beside it. -/
theorem secret_decides :
    quiet.serve ⟨some "s", false⟩ unworded (asking [bearer]) =
      quiet.serve ⟨none, false⟩ unworded (asking [bearer]) ∧
    (quiet.serve ⟨some "s", false⟩ unworded
      (asking [bearer, (Guard.secretHeader, utf8 "t")])).2.status = 403 := by
  obtain ⟨guarded, -⟩ := Session.guard_factors_out "s" false unworded quiet (asking [bearer])
  obtain ⟨forged, -, -, -, -, secret⟩ := Session.guard_factors_out "s" false unworded quiet
    (asking [bearer, (Guard.secretHeader, utf8 "t")])
  constructor
  · refine guarded.passes (.bearer (utf8 "Bearer s") ?_ ?_ ?_)
    · decide +kernel
    · decide +kernel
    · decide +kernel
  · rw [forged.status (secret (utf8 "t") (by decide +kernel) (by decide +kernel))]
    decide +kernel

/-- A refused `HEAD` request for a path without an endpoint. -/
def lost : Request := ⟨"HEAD", "/control/nope", [], []⟩

/-- The answer to a refused `HEAD` request may have a text. -/
theorem head_with_text : ¬ ∀ (token : String) (cors : Bool) (wording : Json.Wording) (s : Session)
    (r : Request), ¬ Guard.Presents token r → r.method = "HEAD" →
      (s.serve ⟨some token, cors⟩ wording r).2.body = .empty := by
  intro h
  have hrefusal : Guard.refusal? "s" lost = some .missing := by decide +kernel
  have refused : ¬ Guard.Presents "s" lost := by
    rw [← Guard.refusal?_eq_none_iff, hrefusal]
    exact Option.some_ne_none _
  have hdrops : dropsBody lost = false := by decide +kernel
  have hempty := h "s" false unworded quiet lost refused rfl
  rw [Session.serve_of_refusal hrefusal, Plan.body_finish, hdrops,
    if_neg Bool.false_ne_true] at hempty
  cases hempty

end Sample

end HostAlert.Rehearsal
