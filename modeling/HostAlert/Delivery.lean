import HostAlert.Config
import HostAlert.Http.Exchange
import HostAlert.Http.Form
import HostAlert.Json.Record
import HostAlert.Text.Blank

/-!
# Deliveries

A message goes to a chat through the bot interface of Telegram. `prepare` turns a message into the
call that delivers it, and `outcome` judges the answer, which is an `Acknowledgement` when all is
well. A blank message needs no call.
-/

namespace HostAlert

structure Acknowledgement where
  ok : Bool
  description : Option String
  deriving DecidableEq

namespace Acknowledgement

open Json

/-- Says nothing, and so does not accept. -/
def empty : Acknowledgement := ⟨false, none⟩

/-- The members that matter. -/
def members : List (Member Acknowledgement) :=
  [ .of "ok" .kept bool fun a v => { a with ok := v },
    .of "description" .kept (optional string) fun a v => { a with description := v } ]

def read : Reader Acknowledgement :=
  record members empty

end Acknowledgement

/-- Why a message was not delivered. -/
inductive DeliveryError
  /-- No bot or no chat is named. -/
  | incompleteConfig
  /-- The address of the interface is no URL. -/
  | badUrl
  /-- No answer came. -/
  | unanswered
  /-- The answer had another status than success. -/
  | status (code : Nat) (body : String)
  /-- The answer is no acknowledgement. -/
  | undecodable (fault : Json.Fault)
  /-- The message was refused. -/
  | refused (description : String)
  deriving DecidableEq

/-- What happened to a message. -/
abbrev Outcome := Except DeliveryError Unit

def DeliveryError.message (wording : Json.Wording) : DeliveryError → String
  | incompleteConfig => "telegram configuration is incomplete"
  | badUrl => "send request: builder error"
  | unanswered => "send request: error sending request"
  | status code body => "telegram api status " ++ toString code ++ ": " ++ body
  | undecodable fault => "decode telegram response: " ++ wording fault
  | refused description => "telegram api error: " ++ description

namespace Delivery

/-- Where the bot interface is reached unless another place is named. -/
def apiBase : String := "https://api.telegram.org"

/-- The greatest number of characters of a message. -/
def maxLength : Nat := 4096

/-- The number of bytes of an answer that are read. -/
def maxBody : Nat := 4096

/-- The text that is sent for a message: trimmed, and cut to the greatest length. -/
def messageText (message : String) : String :=
  String.ofList ((Text.trim message.toList).take maxLength)

def withoutSlashes (base : String) : String :=
  String.ofList (base.toList.reverse.dropWhile (· == '/')).reverse

/-- The address to which messages of a bot are posted. -/
def endpoint (base botToken : String) : String :=
  withoutSlashes base ++ "/bot" ++ botToken ++ "/sendMessage"

def form (chatId text : String) : List (String × String) :=
  [("chat_id", chatId), ("text", text)]

/-- What delivering a message takes. -/
inductive Plan
  /-- Nothing, as the message is blank. -/
  | skip
  /-- It cannot be sent. -/
  | fail (e : DeliveryError)
  /-- An answer to this call. -/
  | send (call : Http.Call)
  deriving DecidableEq

def prepare (base : String) (config : TelegramConfig) (message : String) : Plan :=
  let text := messageText message
  if text.isEmpty then .skip
  else
    match Http.Url.ofText? (endpoint base config.botToken) with
    | some url =>
      if url.isSendable then .send ⟨url, some (form config.chatId text)⟩ else .fail .badUrl
    | none => .fail .badUrl

/-- The text of a body without the blank characters at its ends. -/
def bodyText (body : Bytes) : String :=
  String.ofList (Text.trim (Text.Utf8.decodeLossy body))

def nonBlank (s : String) : Option String :=
  let trimmed := Text.trimmed s
  if trimmed.isEmpty then none else some trimmed

/-- What is said of a refusal that comes without any text. -/
def unexplained : String := "unknown telegram error"

/-- Why a message was refused: the trimmed description, else the trimmed text of the whole answer;
none when both are blank. -/
def explanation? (description : Option String) (body : Bytes) : Option String :=
  (description.bind nonBlank).or (nonBlank (String.ofList (Text.Utf8.decodeLossy body)))

def refusal (description : Option String) (body : Bytes) : String :=
  (explanation? description body).getD unexplained

/-- Judges the body of an answer with the status of success. -/
def acknowledged (body : Bytes) : Outcome :=
  if body.isEmpty then .ok ()
  else
    match Json.document Acknowledgement.read body with
    | .error fault => .error (.undecodable fault)
    | .ok a => if a.ok then .ok () else .error (.refused (refusal a.description body))

/-- Judges the answer to a call. -/
def outcome : Http.Answer → Outcome
  | .failed => .error .unanswered
  | .reply r =>
    let body := r.body maxBody
    if r.status = 200 then acknowledged body else .error (.status r.status (bodyText body))

end Delivery

end HostAlert
