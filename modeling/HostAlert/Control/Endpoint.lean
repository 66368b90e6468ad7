import HostAlert.Alert.State
import HostAlert.Codec.Config
import HostAlert.Control.MediaType
import HostAlert.Control.Request
import HostAlert.Delivery
import HostAlert.Time.Calendar

/-!
# Endpoints

What the control interface offers: the health of the program, the settings, a test message and the
alert states. `Endpoint.action` turns a request into an `Action`, which says what is to be read or
done; the responses are made from what comes of it.
-/

namespace HostAlert.Control

open Json (Value Fault Wording)

/-- What a request asks for. -/
inductive Action
  /-- Nothing; this is the response. -/
  | respond (r : Response)
  /-- The health of the program. -/
  | health
  /-- The current settings. -/
  | config
  /-- The alert states. -/
  | states
  /-- New settings. -/
  | replace (config : TelegramConfig)
  /-- A test message. -/
  | test (message : String)

def maxBody : Nat := 2097152

def tooLarge : String := "Failed to buffer the request body: length limit exceeded"

/-! ### Responses -/

def healthResponse (now : Instant) : Response :=
  .ofJson 200 (.object [("status", .text "ok"), ("timestamp", .text (now.rfc3339 "+00:00"))])

def alertStateValue (s : AlertState) : Value :=
  .object
    [ ("active", .bool s.active),
      ("last_alert", (s.lastAlert.map fun t => Value.text (t.rfc3339 "Z")).getD .null) ]

def alertStatesValue (s : AlertStates) : Value :=
  .object (Metric.all.map fun m => (m.name, alertStateValue (s.get m)))

def configResponse (c : TelegramConfig) : Response :=
  .ofJson 200 c.toValue

def statesResponse (s : AlertStates) : Response :=
  .ofJson 200 (alertStatesValue s)

/-- The response to a test message of which this became. -/
def testResponse (wording : Wording) : Outcome → Response
  | .ok () => .ofStatus 200
  | .error e => .ofError 502 ("telegram test failed: " ++ e.message wording)

/-! ### Bodies -/

structure TestMessage where
  message : String
  deriving DecidableEq

def TestMessage.members : List (Json.Member TestMessage) :=
  [.of "message" .kept Json.string fun t v => { t with message := v }]

/-- Reads a test message; without a message it is empty. -/
def TestMessage.read : Json.Reader TestMessage :=
  Json.record members ⟨""⟩

def TestMessage.toValue (t : TestMessage) : Value :=
  .object [("message", .text t.message)]

/-- Whether the byte is an ASCII space, tab, line feed, form feed or carriage return. -/
def isAsciiSpace (b : UInt8) : Bool :=
  b == 0x20 || b == 0x09 || b == 0x0A || b == 0x0C || b == 0x0D

/-- What is said of settings that cannot be decoded. -/
def undecodable (wording : Wording) (fault : Fault) : String :=
  "json decode: " ++
    (match fault with
      | .mistyped => "Failed to deserialize the JSON body into the target type: "
      | .malformed | .truncated => "Failed to parse the request body as JSON: ") ++
    wording fault

def Request.isJson (r : Request) : Bool :=
  match ((r.header? Response.contentType).bind Request.readable?).bind MediaType.ofText? with
  | some m => m.isJson
  | none => false

/-- New settings. What follows the settings in the body is not looked at. -/
def replaceAction (wording : Wording) (r : Request) : Action :=
  if !r.isJson then
    .respond (.ofError 400 "json decode: Expected request with `Content-Type: application/json`")
  else if maxBody < r.body.length then .respond (.ofError 400 ("json decode: " ++ tooLarge))
  else
    match Submission.read r.body with
    | .error fault => .respond (.ofError 400 (undecodable wording fault))
    | .ok (submission, _) =>
      match submission.validate with
      | .error refusal => .respond (.ofError 422 refusal.message)
      | .ok config => .replace config

/-- A test message; a body of white space alone counts as none. -/
def testAction (wording : Wording) (r : Request) : Action :=
  if maxBody < r.body.length then .respond (.ofText 413 tooLarge)
  else if r.body.all isAsciiSpace then .test ""
  else
    match Json.document TestMessage.read r.body with
    | .error fault => .respond (.ofError 400 ("json decode: " ++ wording fault))
    | .ok t => .test t.message

/-! ### The endpoints -/

inductive Endpoint
  | health
  | config
  | test
  | state
  deriving DecidableEq

namespace Endpoint

def all : List Endpoint := [health, config, test, state]

def path : Endpoint → String
  | health => "/control/health"
  | config => "/control/notifications/telegram"
  | test => "/control/notifications/telegram/test"
  | state => "/control/notifications/telegram/state"

def ofPath? (path : String) : Option Endpoint :=
  all.find? fun e => e.path == path

def methods : Endpoint → List String
  | health | state => ["GET", "HEAD"]
  | config => ["GET", "HEAD", "PUT"]
  | test => ["POST"]

/-- What a request to the endpoint asks for, by a method that it understands. -/
def action (wording : Wording) (r : Request) : Endpoint → Action
  | health => .health
  | state => .states
  | config => if r.method = "PUT" then replaceAction wording r else .config
  | test => testAction wording r

end Endpoint

end HostAlert.Control
