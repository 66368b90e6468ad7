import HostAlert.Delivery
import HostAlert.Proofs.Json.Rereading
import HostAlert.Proofs.Message.Substance

/-!
# Acknowledged messages

A reply that acknowledges a message (`Delivery.Acknowledges`) is judged as a delivery if all of
its body is read and the names in it are texts (`Delivery.outcome_of_acknowledges`). Of a longer
body only the front is read, which is no JSON text any more (`Delivery.outcome_of_echo`).
-/

namespace HostAlert

open Json

namespace Acknowledgement

/-- The member that says that the message was taken. -/
def acceptance : Item := ⟨codes "ok", utf8 "true"⟩

/-- The body is a JSON text of an object with these members: one of them says that the message was
taken, and none describes why it was not. -/
structure Accepts (items : List Item) (body : Bytes) : Prop where
  text : ∃ lead object trail, body = lead ++ (object ++ trail) ∧ Blank lead ∧ Blank trail ∧
    IsObject items object
  ok : items.filter (fun i => i.name = codes "ok") = [acceptance]
  silent : ∀ i ∈ items, i.name ≠ codes "description"

/-- A member of another name is passed over. -/
theorem find?_other {name : String} (ok : name ≠ "ok") (description : name ≠ "description") :
    Member.find? members name = none := by
  simp [Member.find?, members, Member.of, Ne.symm ok, Ne.symm description]

theorem reads_others {items : List Item} (others : ∀ i ∈ items, textOf i.name ≠ "ok" ∧
    textOf i.name ≠ "description") (seen : List String) (a : Acknowledgement) :
    Reads members seen a items seen a := by
  induction items with
  | nil => exact .nil
  | cons i items ih =>
    obtain ⟨hok, hdescription⟩ := others i List.mem_cons_self
    exact .unknown (find?_other hok hdescription)
      (ih fun i hi => others i (List.mem_cons_of_mem _ hi))

theorem reads_acceptance {items : List Item} {seen : List String} {a : Acknowledgement}
    (h : Reads members ["ok"] ⟨true, none⟩ items seen a) :
    Reads members [] empty (acceptance :: items) seen a :=
  .written rfl rfl (rereads_bool true) h

theorem reads_accepted {items : List Item}
    (named : ∀ i ∈ items, ∀ name, textOf i.name = name ↔ i.name = codes name)
    (ok : items.filter (fun i => i.name = codes "ok") = [acceptance])
    (silent : ∀ i ∈ items, i.name ≠ codes "description") :
    Reads members [] empty items ["ok"] ⟨true, none⟩ := by
  induction items with
  | nil => cases ok
  | cons i items ih =>
    have named' : ∀ i' ∈ items, ∀ name, textOf i'.name = name ↔ i'.name = codes name :=
      fun i' hi' => named i' (List.mem_cons_of_mem _ hi')
    have silent' : ∀ i' ∈ items, i'.name ≠ codes "description" :=
      fun i' hi' => silent i' (List.mem_cons_of_mem _ hi')
    by_cases hname : i.name = codes "ok"
    · rw [List.filter_cons_of_pos (by simpa using hname)] at ok
      obtain ⟨rfl, hrest⟩ := List.cons.inj ok
      refine reads_acceptance (reads_others (fun i' hi' => ⟨?_, ?_⟩) _ _)
      · rw [ne_eq, named' i' hi']
        exact of_decide_eq_false (Bool.eq_false_iff.mpr (List.filter_eq_nil_iff.mp hrest i' hi'))
      · exact mt (named' i' hi' _).mp (silent' i' hi')
    · rw [List.filter_cons_of_neg (by simpa using hname)] at ok
      have hok : textOf i.name ≠ "ok" := mt (named i List.mem_cons_self _).mp hname
      have hdescription : textOf i.name ≠ "description" :=
        mt (named i List.mem_cons_self _).mp (silent i List.mem_cons_self)
      exact .unknown (find?_other hok hdescription) (ih named' ok silent')

theorem document_accepted {items : List Item} {body : Bytes} (h : Accepts items body)
    (paired : ∀ i ∈ items, ∀ n ∈ i.name, isSurrogate n = false) :
    document read body = .ok ⟨true, none⟩ := by
  obtain ⟨lead, object, trail, rfl, hlead, htrail, hobject⟩ := h.text
  have hreads := reads_accepted (fun i hi => hobject.textOf_eq_iff hi (paired i hi)) h.ok h.silent
  exact document_of_blank (record_object hobject paired hreads rfl hlead trail) htrail

theorem Accepts.ne_nil {items : List Item} {body : Bytes} (h : Accepts items body) : body ≠ [] := by
  obtain ⟨lead, object, trail, rfl, -, -, hobject⟩ := h.text
  obtain ⟨b, t, rfl, -⟩ := hobject.isValue.head
  simp

end Acknowledgement

namespace Delivery

/-- A reply that arrived whole with the status of success and acknowledges the message. -/
structure Acknowledges (items : List Item) (r : Http.Reply) : Prop where
  status : r.status = 200
  whole : r.whole = true
  accepts : Acknowledgement.Accepts items r.chunks.flatten

/-- A message that is acknowledged is delivered, if all of the answer is read and the names in it
are texts. -/
theorem outcome_of_acknowledges {items : List Item} {r : Http.Reply} (h : Acknowledges items r)
    (read : r.chunks.flatten.length ≤ maxBody)
    (paired : ∀ i ∈ items, ∀ n ∈ i.name, isSurrogate n = false) :
    outcome (.reply r) = .ok () := by
  have hbody : r.body maxBody = r.chunks.flatten := by
    rw [Http.Reply.body, Http.readLimited_eq_take, List.take_of_length_le read]
  have hne : r.chunks.flatten.isEmpty = false := List.isEmpty_eq_false_iff.mpr h.accepts.ne_nil
  rw [outcome]
  simp only [hbody, h.status, if_true, acknowledged, hne, Bool.false_eq_true, if_false,
    Acknowledgement.document_accepted h.accepts paired]

/-! ### Answers that are too long or hold no text -/

/-- An acknowledgement with another member, up to the value of that. -/
def front (label s : Bytes) : Bytes :=
  0x7B :: (utf8 "\x22ok\x22:true," ++ (label ++ s))

/-- An acknowledgement that gives back a message of `n` letters. -/
def echo (n : Nat) : Bytes :=
  front (utf8 "\x22result\x22:") (0x22 :: (List.replicate n (byte 'x') ++ [0x22, 0x7D]))

def unpaired : Bytes :=
  front (utf8 "\x22\x5cud800\x22:") (utf8 "1\x7d")

def isLetter (c : Char) : Bool :=
  0x61 ≤ c.toNat && c.toNat ≤ 0x7A

theorem spells_letters {s : List Char} (h : s.all isLetter = true) :
    Spells (s.map Char.toNat) (Text.Utf8.encode s) := by
  induction s with
  | nil => exact .nil
  | cons c s ih =>
    rw [List.all_cons, Bool.and_eq_true] at h
    obtain ⟨hc, hs⟩ := h
    simp only [isLetter, Bool.and_eq_true, decide_eq_true_eq] at hc
    exact .plain c (by omega) (by omega) (by omega) (ih hs)

theorem label_ok : IsLabel .curly (codes "ok") (utf8 "\x22ok\x22:") :=
  .curly (spells_letters (by decide)) .nil .nil

theorem label_result : IsLabel .curly (codes "result") (utf8 "\x22result\x22:") :=
  .curly (spells_letters (by decide)) .nil .nil

theorem label_unpaired : IsLabel .curly [0xD800] (utf8 "\x22\x5cud800\x22:") :=
  .curly (.unit _ _ _ _ 0xD800 rfl (fun _ ⟨_, _, _, _, _, _, h, _⟩ => by cases h) .nil) .nil .nil

theorem front_eq : utf8 "\x22ok\x22:true," = utf8 "\x22ok\x22:" ++ (utf8 "true" ++ [byte ',']) := by
  decide

theorem accepts_front {name : List Nat} {label value : Bytes}
    (hlabel : IsLabel .curly name label) (hvalue : IsValue value) (ok : name ≠ codes "ok")
    (silent : name ≠ codes "description") :
    Acknowledgement.Accepts [Acknowledgement.acceptance, ⟨name, value⟩]
      (front label (value ++ [0x7D])) where
  text := by
    have hitems : IsItems .curly [Acknowledgement.acceptance, ⟨name, value⟩] _ :=
      .more label_ok .yes .nil .nil (.last hlabel hvalue .nil)
    refine ⟨[], _, [], ?_, .nil, .nil, .items .nil hitems⟩
    rw [front, front_eq]
    simp
  ok := by simp [Acknowledgement.acceptance, ok]
  silent := by
    have haccept : codes "ok" ≠ codes "description" := by decide
    simp [Acknowledgement.acceptance, haccept, silent]

/-- What breaks in the value of the other member breaks in the acknowledgement. -/
theorem document_front {name : List Nat} {label s : Bytes} {e : Fault}
    (hlabel : IsLabel .curly name label) (paired : ∀ n ∈ name, isSurrogate n = false)
    (ok : textOf name ≠ "ok") (silent : textOf name ≠ "description")
    (breaks : ∀ lead, Blank lead → skip (lead ++ s) = .error e) :
    document Acknowledgement.read (front label s) = .error e := by
  obtain ⟨fuel, hfuel⟩ : ∃ fuel,
      (utf8 "\x22ok\x22:true," ++ (label ++ s)).length + 1 = fuel + 1 + 1 := by
    refine ⟨(utf8 "\x22ok\x22:true," ++ (label ++ s)).length - 1, ?_⟩
    rw [front_eq]
    simp only [List.length_append, List.length_singleton]
    omega
  obtain ⟨seen, next, reads, hstep⟩ := fromObject_member
    (Acknowledgement.reads_acceptance .nil) (by decide) .yes label_ok (.first .nil)
    (ends_comma (label ++ s)) (fuel + 1)
  cases reads
  have hbroken := fromObject_broken (Acknowledgement.find?_other ok silent) paired hlabel
    (.later .nil .nil) breaks fuel ["ok"] (⟨true, none⟩ : Acknowledgement)
  simp only [List.nil_append, List.cons_append] at hstep hbroken
  have hbody : utf8 "\x22ok\x22:true," ++ (label ++ s) =
      utf8 "\x22ok\x22:" ++ (Acknowledgement.acceptance.value ++ byte ',' :: (label ++ s)) := by
    rw [front_eq, List.append_assoc, List.append_assoc]
    rfl
  have hrecord := record_curly Acknowledgement.members .empty .nil
    (utf8 "\x22ok\x22:true," ++ (label ++ s))
  rw [List.nil_append, hfuel, hbody, hstep, hbroken] at hrecord
  rw [document, Acknowledgement.read, front, hbody, hrecord]
  rfl

theorem skip_unclosed {s : Bytes} (h : ∀ b ∈ s, isPlain b = true) (lead : Bytes)
    (hlead : Blank lead) : skip (lead ++ 0x22 :: s) = .error .truncated := by
  have hscalar : skipScalar (0x22 :: s) = .error .truncated := by
    show skipText s = .error .truncated
    rw [← List.append_nil s, skipText_plain h]
    rfl
  rw [skip, skipWithin, skipSpace_to hlead (by decide)]
  simp only [hscalar]
  rfl

theorem outcome_of_echo {n : Nat} (h : maxBody ≤ n) :
    outcome (.reply ⟨200, [echo n], true⟩) = .error (.undecodable .truncated) := by
  have hplain : ∀ b ∈ List.replicate (maxBody - 21) (byte 'x'), isPlain b = true := by
    intro b hb
    rw [List.eq_of_mem_replicate hb]
    rfl
  have hfront : (echo n).take maxBody =
      front (utf8 "\x22result\x22:") (0x22 :: List.replicate (maxBody - 21) (byte 'x')) := by
    have hsplit (s : Bytes) : front (utf8 "\x22result\x22:") (0x22 :: s) =
        front (utf8 "\x22result\x22:") [0x22] ++ s := by
      simp [front]
    have hlen : (front (utf8 "\x22result\x22:") [0x22]).length = 21 := by decide
    have hletters : maxBody - 21 ≤ (List.replicate n (byte 'x')).length := by
      rw [List.length_replicate]
      omega
    rw [echo, hsplit, hsplit (List.replicate (maxBody - 21) (byte 'x')), List.take_append, hlen,
      List.take_of_length_le (by rw [hlen]; decide), List.take_append_of_le_length hletters,
      List.take_replicate, Nat.min_eq_left (by omega)]
  have hdocument := document_front label_result (by decide) (by decide) (by decide)
    (skip_unclosed hplain)
  have hbody : (⟨200, [echo n], true⟩ : Http.Reply).body maxBody = (echo n).take maxBody := by
    rw [Http.Reply.body, Http.readLimited_eq_take]
    simp
  rw [outcome]
  simp only [hbody, hfront, if_true, acknowledged, hdocument]
  rfl

theorem outcome_of_unpaired : outcome (.reply ⟨200, [unpaired], true⟩) ≠ .ok () := by
  have hrefused : (outcome (.reply ⟨200, [unpaired], true⟩)).isOk = false := by decide +kernel
  intro h
  rw [h] at hrefused
  cases hrefused

theorem acknowledges_echo (n : Nat) : Acknowledges [Acknowledgement.acceptance,
    ⟨codes "result", 0x22 :: (List.replicate n (byte 'x') ++ [0x22])⟩] ⟨200, [echo n], true⟩ := by
  have hletters : Spells ((List.replicate n 'x').map Char.toNat)
      (List.replicate n (byte 'x')) := by
    rw [← encode_replicate (by decide)]
    refine spells_letters (List.all_eq_true.mpr fun c hc => ?_)
    rw [List.eq_of_mem_replicate hc]
    rfl
  have haccepts := accepts_front label_result (.text hletters) (by decide) (by decide)
  rw [List.cons_append, List.append_assoc] at haccepts
  exact ⟨rfl, rfl, by rw [List.flatten_singleton]; exact haccepts⟩

theorem acknowledges_unpaired : Acknowledges [Acknowledgement.acceptance, ⟨[0xD800], utf8 "1"⟩]
    ⟨200, [unpaired], true⟩ := by
  have hdigit : IsDigits [byte '1'] := ⟨List.cons_ne_nil _ _, List.forall_mem_singleton.mpr rfl⟩
  have hnumber : IsValue ([byte '1'] ++ ([] ++ [])) :=
    .number (.positive (.digits hdigit (by decide)) .none .none)
  have haccepts := accepts_front label_unpaired hnumber (by decide) (by decide)
  exact ⟨rfl, rfl, by rw [List.flatten_singleton]; exact haccepts⟩

/-- An acknowledgement may be taken for a failure when it is longer than what is read of it, and
when a name in it is no text. -/
theorem acknowledged_not_delivered :
    (¬ ∀ (items : List Item) (r : Http.Reply), Acknowledges items r →
      (∀ i ∈ items, ∀ n ∈ i.name, isSurrogate n = false) → outcome (.reply r) = .ok ()) ∧
    ¬ ∀ (items : List Item) (r : Http.Reply), Acknowledges items r →
      r.chunks.flatten.length ≤ maxBody → outcome (.reply r) = .ok () := by
  constructor
  · intro h
    have hrefused : outcome (.reply ⟨200, [echo 5000], true⟩) =
        .error (.undecodable .truncated) := outcome_of_echo (by decide)
    rw [h _ _ (acknowledges_echo 5000) (by decide)] at hrefused
    cases hrefused
  · intro h
    exact outcome_of_unpaired (h _ _ acknowledges_unpaired (by decide))

end Delivery

end HostAlert
