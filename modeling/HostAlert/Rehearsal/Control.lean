import HostAlert.Control.Connection
import HostAlert.Control.Route
import HostAlert.Rehearsal.Session

/-!
# Requests in a session

`Session.serve` carries a request to the control interface through to its response;
`Session.serveConnection` does so for a request that arrives over a connection.
-/

namespace HostAlert.Rehearsal.Session

open Control

def perform (s : Session) (wording : Json.Wording) : Action → Session × Response
  | .respond r => (s, r)
  | .health => (s, healthResponse s.now)
  | .config => (s, configResponse s.shared.config)
  | .states => (s, statesResponse s.shared.alerts)
  | .replace config => (s.updateConfig config, .ofStatus 200)
  | .test message =>
    let (s, outcome) := s.sendTest message
    (s, testResponse wording outcome)

def serve (s : Session) (policy : Policy) (wording : Json.Wording) (r : Request) :
    Session × Response :=
  let plan := plan policy wording r
  let (s, response) := s.perform wording plan.action
  (s, plan.finish response)

def serveConnection (s : Session) (policy : Policy) (wording : Json.Wording) (r : Request) :
    Session × Response :=
  match r.received with
  | .error status => (s, .ofStatus status)
  | .ok r =>
    let (s, response) := s.serve policy wording r
    (s, response.sent r.method)

end HostAlert.Rehearsal.Session
