import HostAlert.Cli.Launch
import HostAlert.Proofs.Control.Handler
import HostAlert.Proofs.Text.Trim

/-!
# Blank secrets

The control interface requires the token of the configuration file, or the secret of the
environment if the file has none. A blank secret of the environment counts as none, but a blank
token of the file counts as a token (`required_token`). So with a secret in either place a request
that presents none, or a blank one, gets to no handler, unless the file has a blank token and the
request presents just this one (`handler_of_blank`).
-/

namespace HostAlert

namespace Control.Guard

/-- The request presents no token, or a blank one. -/
def PresentsBlank (r : Request) : Prop :=
  ∀ given, presented r = .ok given → Text.trim given = []

theorem PresentsBlank.not_presents {token : String} {r : Request} (h : PresentsBlank r)
    (secret : Text.trim token.toList ≠ []) : ¬ Presents token r :=
  fun presents => secret (h _ (presented_eq_ok_iff.mpr presents))

end Control.Guard

namespace Cli

open Control Rehearsal

/-- The program reads the document from its configuration file, in the environment that its
environment file leaves. -/
structure Loads (args : List String) (env : Environment) (envFile : Option Bytes)
    (read : String → Except String Bytes) (inner : Environment) (document : Document) : Prop where
  environment : (envFile.map (EnvFile.apply env)).getD (some env) = some inner
  file : ∃ file, Invocation.ofArguments args = .run file ∧
    Document.ofFile inner (read file) = .ok document

/-- A secret that is not blank is set, in the file or in the environment. -/
def HasSecret (settings : ApiSettings) (env : Environment) : Prop :=
  (∃ token, settings.token = some token ∧ Text.trim token.toList ≠ []) ∨
    ∃ secret, env.get? ApiSettings.secretVariable = some secret ∧ Text.trim secret.toList ≠ []

/-- The token of the file, if it has one, is not blank. -/
def TokenNotBlank (settings : ApiSettings) : Prop :=
  ∀ token, settings.token = some token → Text.trim token.toList ≠ []

variable {args : List String} {env inner : Environment} {envFile : Option Bytes}
variable {read : String → Except String Bytes} {document : Document} {settings : ApiSettings}

/-- The program serves the control interface as its file and its environment say. -/
theorem launch_of_loads (h : Loads args env envFile read inner document)
    (api : document.api = some settings) (wording : Json.Wording) :
    launch wording args env envFile read =
      .started document.telegram (some (.ofSettings settings inner)) := by
  obtain ⟨file, harguments, hread⟩ := h.file
  unfold launch
  simp only [h.environment, harguments, hread, api, Option.map_some]

theorem secretOf_eq_some {secret : String}
    (set : env.get? ApiSettings.secretVariable = some secret)
    (notBlank : Text.trim secret.toList ≠ []) : ApiSettings.secretOf env = some secret := by
  have hkept : (Text.trimmed secret).isEmpty = false :=
    Bool.eq_false_iff.mpr fun blank => notBlank (Text.isEmpty_trimmed secret |>.mp blank)
  rw [ApiSettings.secretOf, set, Option.filter_some, hkept]
  rfl

/-- If a secret is set, some token is required: that of the file even if it is blank, else one that
is not. -/
theorem required_token (h : HasSecret settings env) :
    ∃ token, settings.requiredToken env = some token ∧
      (settings.token = some token ∨ Text.trim token.toList ≠ []) := by
  unfold ApiSettings.requiredToken
  cases htoken : settings.token with
  | some token => exact ⟨token, rfl, .inl rfl⟩
  | none =>
    obtain ⟨token, hsome, -⟩ | ⟨secret, hset, hnotBlank⟩ := h
    · rw [htoken] at hsome
      cases hsome
    · exact ⟨secret, secretOf_eq_some hset hnotBlank, .inr hnotBlank⟩

/-- A blank token lets through just the requests that present the same one, if the file has it. -/
theorem admits_of_blank_iff (h : HasSecret settings env) {r : Request}
    (blank : Guard.PresentsBlank r) : (Service.ofSettings settings env).policy.Admits r ↔
      ∃ token, settings.token = some token ∧ Guard.presented r = .ok token.toList := by
  obtain ⟨required, hrequired, hsecret⟩ := required_token h
  have hadmits : (Service.ofSettings settings env).policy.Admits r ↔ Guard.Presents required r :=
    ⟨fun admits => admits required hrequired, fun presents token htoken =>
      Option.some.inj (hrequired.symm.trans htoken) ▸ presents⟩
  rw [hadmits]
  constructor
  · intro presents
    obtain hfile | hnotBlank := hsecret
    · exact ⟨required, hfile, Guard.presented_eq_ok_iff.mpr presents⟩
    · exact absurd presents (blank.not_presents hnotBlank)
  · rintro ⟨token, htoken, hpresented⟩
    have hsame : settings.requiredToken env = some token := by
      rw [ApiSettings.requiredToken, htoken]
      rfl
    obtain rfl := Option.some.inj (hrequired.symm.trans hsame)
    exact Guard.presented_eq_ok_iff.mp hpresented

/-- If the token of the file is not blank, the guard lets no blank one through. -/
theorem not_admits_of_blank (h : HasSecret settings env) (token : TokenNotBlank settings)
    {r : Request} (blank : Guard.PresentsBlank r) :
    ¬ (Service.ofSettings settings env).policy.Admits r := by
  rw [admits_of_blank_iff h blank]
  rintro ⟨given, hgiven, hpresented⟩
  exact token given hgiven (blank _ hpresented)

/-- The program serves the control interface with the token of its file, or the secret of its
environment. If one of them is not blank, a request that presents no token or a blank one gets past
the guard only by presenting a blank token that the file has. If the file has none, such a request
gets to no handler and changes nothing, as it is and over a connection. -/
theorem handler_of_blank (loads : Loads args env envFile read inner document)
    (api : document.api = some settings) (secret : HasSecret settings inner)
    (wording : Json.Wording) : ∃ service : Service,
    launch wording args env envFile read = .started document.telegram (some service) ∧
    (∀ r, Guard.PresentsBlank r → (service.policy.Admits r ↔
      ∃ token, settings.token = some token ∧ Guard.presented r = .ok token.toList)) ∧
    (TokenNotBlank settings → ∀ r, Guard.PresentsBlank r → service.policy.handler? r = none ∧
      ∀ s : Session, (s.serve service.policy wording r).1 = s ∧
        ((s.serve service.policy wording r).2.status = 401 ∨
          (s.serve service.policy wording r).2.status = 403)) ∧
    (TokenNotBlank settings → ∀ r r', r.received = .ok r' → Guard.PresentsBlank r' →
      ∀ s : Session, (s.serveConnection service.policy wording r).1 = s ∧
        ((s.serveConnection service.policy wording r).2.status = 401 ∨
          (s.serveConnection service.policy wording r).2.status = 403)) := by
  refine ⟨_, launch_of_loads loads api wording, fun r => admits_of_blank_iff secret,
    fun token r blank => ?_, fun token r r' received blank s => ?_⟩
  · have refused := not_admits_of_blank secret token blank
    exact ⟨Policy.handler?_of_not_admits refused, fun s =>
      (Session.turned_away refused wording s).2⟩
  · have refused := not_admits_of_blank secret token blank
    rw [Session.serveConnection_of_received received, Response.status_sent]
    exact (Session.turned_away refused wording s).2

/-! ### A configuration file without a token and one with a blank token -/

namespace Sample

open Rehearsal.Sample

def arguments : List String := ["-f", "config.json"]

def secretive : Environment := ⟨[(ApiSettings.secretVariable, utf8 "s")]⟩

def tokenless : Bytes := utf8 "\x7b\x22api\x22:\x7b\x7d\x7d"

def blankToken : Bytes := utf8 "\x7b\x22api\x22:\x7b\x22token\x22:\x22\x22\x7d\x7d"

def blankly : Request := asking [(Guard.secretHeader, [])]

theorem presentsBlank_blankly : Guard.PresentsBlank blankly := by
  intro given h
  have hempty : Guard.presented blankly = .ok "".toList :=
    Guard.presented_eq_ok_iff.mpr (.secret [] (by decide +kernel) (by decide +kernel))
  rw [hempty] at h
  cases h
  rfl

theorem loads_of_api {content : Bytes} {settings : ApiSettings}
    (h : ((Document.ofFile secretive (.ok content)).toOption.map (·.api)) = some (some settings)) :
    ∃ document, Loads arguments secretive none (fun _ => .ok content) secretive document ∧
      document.api = some settings := by
  cases hread : Document.ofFile secretive (.ok content) with
  | error e =>
    rw [hread] at h
    cases h
  | ok document =>
    rw [hread] at h
    exact ⟨document, ⟨rfl, "config.json", by decide +kernel, hread⟩, Option.some.inj h⟩

theorem loads_tokenless : ∃ document,
    Loads arguments secretive none (fun _ => .ok tokenless) secretive document ∧
      document.api = some (.ofEnvironment secretive) :=
  loads_of_api (by decide +kernel)

theorem loads_blankToken : ∃ document,
    Loads arguments secretive none (fun _ => .ok blankToken) secretive document ∧
      document.api = some { ApiSettings.ofEnvironment secretive with token := some "" } :=
  loads_of_api (by decide +kernel)

theorem hasSecret (settings : ApiSettings) : HasSecret settings secretive :=
  .inr ⟨"s", by decide +kernel, by decide +kernel⟩

theorem blankly_refused : ∃ (document : Document) (service : Service),
    launch unworded arguments secretive none (fun _ => .ok tokenless) =
      .started document.telegram (some service) ∧ service.policy.handler? blankly = none := by
  obtain ⟨document, loads, api⟩ := loads_tokenless
  obtain ⟨service, started, -, refused, -⟩ := handler_of_blank loads api (hasSecret _) unworded
  exact ⟨document, service, started, (refused nofun blankly presentsBlank_blankly).1⟩

/-- With a blank token in the file, an empty secret header opens the control interface, although the
environment has a secret. -/
theorem blankly_handled : ¬ ∀ (args : List String) (env : Environment) (envFile : Option Bytes)
    (read : String → Except String Bytes) (inner : Environment) (document : Document)
    (settings : ApiSettings) (r : Request), Loads args env envFile read inner document →
    document.api = some settings → HasSecret settings inner → Guard.PresentsBlank r →
    (Service.ofSettings settings inner).policy.handler? r = none := by
  intro h
  obtain ⟨document, loads, api⟩ := loads_blankToken
  have hnone := h _ _ _ _ _ _ _ blankly loads api (hasSecret _) presentsBlank_blankly
  have hsome : (Service.ofSettings
      { ApiSettings.ofEnvironment secretive with token := some "" }
      secretive).policy.handler? blankly = some .health := by
    decide +kernel
  rw [hsome] at hnone
  cases hnone

end Sample

end Cli

end HostAlert
