import HostAlert.Proofs.Delivery.Acknowledged
import HostAlert.Rehearsal.Peer

/-!
# The front of an answer

A body is read piece by piece until enough is there or nothing more comes (`Http.readPieces`). What
is read is the front of all that arrived, however it was cut into pieces and whether the body ended
or broke off. So the outcome of a message depends on the status of the answer and on this front
alone (`Delivery.front_decides`).
-/

namespace HostAlert

namespace Http

/-- What reading a body gives next. -/
inductive Piece
  | chunk (bytes : Bytes)
  /-- The body ended as announced. -/
  | ended
  /-- The body broke off. -/
  | broken

/-- Reads on behind `body` while that is shorter than `limit`. Of a chunk only what still fits is
taken. -/
def readPieces (limit : Nat) (body : Bytes) : List Piece → Bytes
  | .chunk bytes :: pieces =>
    if body.length < limit then
      readPieces limit (body ++ bytes.take (limit - body.length)) pieces
    else body
  | [] | .ended :: _ | .broken :: _ => body

def chunksOf : List Piece → List Bytes
  | .chunk bytes :: pieces => bytes :: chunksOf pieces
  | [] | .ended :: _ | .broken :: _ => []

/-- Taking only what fits does not change the front. -/
theorem take_append_fitting {limit : Nat} {body : Bytes} (h : body.length ≤ limit)
    (bytes rest : Bytes) : ((body ++ bytes.take (limit - body.length)) ++ rest).take limit =
      (body ++ (bytes ++ rest)).take limit := by
  have hfit : body ++ bytes.take (limit - body.length) = (body ++ bytes).take limit := by
    rw [List.take_append, List.take_of_length_le h]
  have hroom : limit - min limit (body ++ bytes).length = limit - (body ++ bytes).length := by
    omega
  rw [hfit, ← List.append_assoc]
  generalize body ++ bytes = front at hroom ⊢
  rw [List.take_append, List.take_append, List.take_take, List.length_take, Nat.min_self, hroom]

/-- What is read never gets longer than the limit, and so it stays the front of what arrived. -/
theorem readPieces_eq {limit : Nat} {body : Bytes} (h : body.length ≤ limit)
    (pieces : List Piece) :
    readPieces limit body pieces = (body ++ (chunksOf pieces).flatten).take limit := by
  fun_induction readPieces limit body pieces with
  | case1 body bytes pieces short ih =>
    have hroom : (body ++ bytes.take (limit - body.length)).length ≤ limit := by
      rw [List.length_append, List.length_take]
      omega
    rw [ih hroom, take_append_fitting h, chunksOf, List.flatten_cons]
  | case2 body bytes pieces full =>
    have hfull : body.length = limit := by omega
    rw [← hfull, List.take_left]
  | case3 body | case4 body | case5 body =>
    rw [chunksOf, List.flatten_nil, List.append_nil, List.take_of_length_le h]

def Reply.pieces (r : Reply) : List Piece :=
  r.chunks.map .chunk ++ [if r.whole then .ended else .broken]

theorem Reply.chunksOf_pieces (r : Reply) : chunksOf r.pieces = r.chunks := by
  have hend (chunks : List Bytes) {last : Piece} (hlast : ∀ bytes, last ≠ .chunk bytes) :
      chunksOf (chunks.map .chunk ++ [last]) = chunks := by
    induction chunks with
    | nil =>
      cases last with
      | chunk bytes => exact (hlast bytes rfl).elim
      | ended | broken => rfl
    | cons bytes chunks ih => exact congrArg (bytes :: ·) ih
  refine hend r.chunks fun bytes => ?_
  split <;> nofun

theorem Reply.body_eq_readPieces (r : Reply) (limit : Nat) :
    r.body limit = readPieces limit [] r.pieces := by
  rw [readPieces_eq (Nat.zero_le _), r.chunksOf_pieces, List.nil_append, Reply.body,
    readLimited_eq_take]

end Http

namespace Delivery

/-- Sends a message, with the call for it answered by `answer`. -/
def send (base : String) (config : TelegramConfig) (message : String)
    (answer : Http.Call → Http.Answer) : Outcome :=
  match prepare base config message with
  | .skip => .ok ()
  | .fail e => .error e
  | .send call => outcome (answer call)

/-- A peer with a script is a way to answer. -/
theorem deliver_eq_send (peer : Rehearsal.Peer) (base : String) (config : TelegramConfig)
    (message : String) : (Rehearsal.deliver peer base config message).2 =
      send base config message fun call => (peer.take call).2.1 := by
  unfold Rehearsal.deliver send
  cases prepare base config message <;> rfl

variable {message : String} {r r' : Http.Reply}

theorem outcome_of_front (status : r.status = r'.status)
    (front : r.chunks.flatten.take maxBody = r'.chunks.flatten.take maxBody) :
    outcome (.reply r) = outcome (.reply r') := by
  have hbody : r.body maxBody = r'.body maxBody := by
    rw [Http.Reply.body, Http.Reply.body, Http.readLimited_eq_take, Http.readLimited_eq_take, front]
  rw [outcome, outcome, hbody, status]

/-- A message that cannot be sent has no URL to go to. -/
theorem badUrl_of_fail {base : String} {config : TelegramConfig} {e : DeliveryError}
    (h : prepare base config message = .fail e) : e = .badUrl := by
  unfold prepare at h
  dsimp only at h
  split at h
  · cases h
  · split at h
    · split at h <;> cases h
      rfl
    · cases h
      rfl

theorem send_of_other_status (h : Text.trim message.toList ≠ []) (status : r.status ≠ 200)
    (base : String) (config : TelegramConfig) :
    send base config message (fun _ => .reply r) = .error .badUrl ∨
      send base config message (fun _ => .reply r) =
        .error (.status r.status (bodyText (r.body maxBody))) := by
  cases hplan : prepare base config message with
  | skip => exact absurd hplan (prepare_ne_skip h base config)
  | fail e =>
    obtain rfl := badUrl_of_fail hplan
    exact .inl (by rw [send, hplan])
  | send call => exact .inr (by rw [send, hplan, outcome, if_neg status])

/-- What is read of a body is its front of the given length, and a delivery judges what is read of
the answer. So two answers with the same status whose bodies begin with the same 4096 bytes come to
the same, whatever their pieces, their ends and what else they hold; and an answer with another
status than success never delivers a message that is not blank. -/
theorem front_decides :
    (∀ limit pieces, Http.readPieces limit [] pieces = (Http.chunksOf pieces).flatten.take limit) ∧
    (∀ (r : Http.Reply) limit, r.body limit = Http.readPieces limit [] r.pieces) ∧
    (∀ peer base config message, (Rehearsal.deliver peer base config message).2 =
      send base config message fun call => (peer.take call).2.1) ∧
    (∀ base config message (r r' : Http.Reply), r.status = r'.status →
      (Http.chunksOf r.pieces).flatten.take 4096 = (Http.chunksOf r'.pieces).flatten.take 4096 →
      send base config message (fun _ => .reply r) =
        send base config message (fun _ => .reply r')) ∧
    ∀ base config message (r : Http.Reply), Text.trim message.toList ≠ [] → r.status ≠ 200 →
      send base config message (fun _ => .reply r) ≠ .ok () := by
  refine ⟨fun limit pieces => ?_, fun r limit => r.body_eq_readPieces limit,
    deliver_eq_send, fun base config message r r' status front => ?_,
    fun base config message r h status => ?_⟩
  · exact Http.readPieces_eq (Nat.zero_le limit) pieces
  · rw [Http.Reply.chunksOf_pieces, Http.Reply.chunksOf_pieces] at front
    have hsame : outcome (.reply r) = outcome (.reply r') := outcome_of_front status front
    unfold send
    dsimp only
    rw [hsame]
  · rcases send_of_other_status h status base config with hsend | hsend
    · rw [hsend]
      nofun
    · rw [hsend]
      nofun

namespace Sample

def spacious : Bytes :=
  utf8 "\x7b\x22ok\x22:true\x7d" ++ List.replicate 4085 0x20

def inOne : Http.Reply :=
  ⟨200, [spacious], true⟩

/-- The acknowledgement in pieces, one of them empty and the last one longer than what is read, from
a body that breaks off. -/
def brokenUp : Http.Reply :=
  ⟨200, [spacious.take 5, [], spacious.drop 5 ++ utf8 "\x7d"], false⟩

def addressed : TelegramConfig :=
  { TelegramConfig.initial with botToken := "t", chatId := "1" }

theorem front_brokenUp : brokenUp.chunks.flatten.take 4096 = inOne.chunks.flatten.take 4096 := by
  have hlength : spacious.length = 4096 := by
    rw [spacious, List.length_append, List.length_replicate]
    rfl
  have hchunks : brokenUp.chunks.flatten = spacious ++ utf8 "\x7d" := by
    show spacious.take 5 ++ ([] ++ ((spacious.drop 5 ++ utf8 "\x7d") ++ [])) = _
    rw [List.append_nil, List.nil_append, ← List.append_assoc, List.take_append_drop]
  rw [hchunks, inOne, List.flatten_singleton, List.take_left' hlength,
    List.take_of_length_le (Nat.le_of_eq hlength)]

theorem outcome_inOne : outcome (.reply inOne) = .ok () := by
  have hobject : Json.IsObject [Acknowledgement.acceptance] (utf8 "\x7b\x22ok\x22:true\x7d") :=
    .items .nil (.last label_ok .yes .nil)
  have hblank : Json.Blank (List.replicate 4085 0x20) := fun b hb => by
    rw [List.eq_of_mem_replicate hb]
    rfl
  have haccepts : Acknowledgement.Accepts [Acknowledgement.acceptance] spacious :=
    ⟨⟨[], _, _, rfl, .nil, hblank, hobject⟩, rfl, by decide⟩
  have hbody : inOne.chunks.flatten = spacious := List.flatten_singleton
  have hacknowledges : Acknowledges [Acknowledgement.acceptance] inOne :=
    ⟨rfl, rfl, hbody ▸ haccepts⟩
  refine outcome_of_acknowledges hacknowledges ?_ (by decide)
  rw [hbody, spacious, List.length_append, List.length_replicate]
  decide

/-- Both replies deliver the message. A reply that says the same with another status does not. -/
theorem delivered_by_front :
    brokenUp.status = inOne.status ∧
      (Http.chunksOf brokenUp.pieces).flatten.take 4096 =
        (Http.chunksOf inOne.pieces).flatten.take 4096 ∧
      send apiBase addressed "hi" (fun _ => .reply brokenUp) = .ok () ∧
      Text.trim "hi".toList ≠ [] ∧
      send apiBase addressed "hi" (fun _ => .reply ⟨201, [spacious], true⟩) ≠ .ok () := by
  obtain ⟨-, -, -, hsame, hother⟩ := front_decides
  have hfront : (Http.chunksOf brokenUp.pieces).flatten.take 4096 =
      (Http.chunksOf inOne.pieces).flatten.take 4096 := by
    rw [Http.Reply.chunksOf_pieces, Http.Reply.chunksOf_pieces]
    exact front_brokenUp
  have hplan :
      (match prepare apiBase addressed "hi" with | .send _ => true | _ => false) = true := by
    decide +kernel
  refine ⟨rfl, hfront, ?_, by decide, hother _ _ _ _ (by decide) (by decide)⟩
  rw [hsame apiBase addressed "hi" brokenUp inOne rfl hfront]
  unfold send
  split at hplan
  · next call hcall =>
    rw [hcall]
    exact outcome_inOne
  · cases hplan

end Sample

end Delivery

end HostAlert
