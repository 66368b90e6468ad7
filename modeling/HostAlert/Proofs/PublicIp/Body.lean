import HostAlert.Proofs.Address.Spelling
import HostAlert.Proofs.PublicIp.Lookups
import HostAlert.Proofs.Text.Trim
import HostAlert.Proofs.Text.Utf8

/-!
# The body that an address is read from

A service announces a body; of what arrives of it, the first `maxBody` bytes are read. The address
that is kept is the trimmed text of the announced body exactly when the part that was not read is
blank, and otherwise only the beginning of that text (`Resolver.kept_of_lookup`).
-/

namespace HostAlert

namespace Http.Reply

/-- The service announced the body: what arrived is its front, and all of it unless the body broke
off. -/
structure Announces (r : Reply) (body : Bytes) : Prop where
  front : r.chunks.flatten <+: body
  whole : r.whole = true → r.chunks.flatten = body

/-- The part of an announced body that is not read. -/
def unread (r : Reply) (limit : Nat) (body : Bytes) : Bytes :=
  body.drop (r.body limit).length

theorem body_append_unread {r : Reply} {body : Bytes} (h : r.Announces body) (limit : Nat) :
    r.body limit ++ r.unread limit body = body := by
  have hfront : r.body limit <+: body := by
    rw [Reply.body, readLimited_eq_take]
    exact (List.take_prefix ..).trans h.front
  obtain ⟨rest, rfl⟩ := hfront
  rw [unread, List.drop_left]

theorem unread_of_short {r : Reply} {body : Bytes} (h : r.Announces body)
    (whole : r.whole = true) {limit : Nat} (short : body.length ≤ limit) :
    r.unread limit body = [] := by
  rw [unread, Reply.body, readLimited_eq_take, h.whole whole, List.take_of_length_le short,
    List.drop_length]

end Http.Reply

namespace PublicIp

open Text Utf8

variable {value : String} {r : Http.Reply} {body : Bytes}

/-- No byte is malformed in what an address was read from. -/
theorem none_notMem_scan {s : Bytes} (haddress : (Address.Ip.ofText? value).isSome)
    (hvalue : value.toList = trim (decodeLossy s)) : none ∉ scan s := by
  intro hnone
  have hreplacement : '\uFFFD' ∈ decodeLossy s := List.mem_map.mpr ⟨none, hnone, rfl⟩
  obtain hblank | htrim := blank_or_mem_trim hreplacement
  · revert hblank
    decide
  · rw [← hvalue] at htrim
    have hspelled := Address.Ip.spelled_of_ofText? haddress _ htrim
    revert hspelled
    decide

/-- The address that is read is the beginning of the announced text, and all of it exactly when
nothing but blank characters is left unread. -/
theorem value_of_announced (haddress : (Address.Ip.ofText? value).isSome)
    (hvalue : value.toList = trim (decodeLossy (r.body maxBody))) (h : r.Announces body) :
    value.toList <+: trim (decodeLossy body) ∧
      (value.toList = trim (decodeLossy body) ↔
        ∀ c ∈ decodeLossy (r.unread maxBody body), isBlank c) := by
  have hbody : decodeLossy body =
      decodeLossy (r.body maxBody) ++ decodeLossy (r.unread maxBody body) := by
    rw [← decodeLossy_append _ _ (none_notMem_scan haddress hvalue),
      Http.Reply.body_append_unread h]
  have hne : trim (decodeLossy (r.body maxBody)) ≠ [] := by
    rw [← hvalue]
    exact mt String.toList_eq_nil_iff.mp (ne_empty_of_isAddress haddress)
  rw [hbody, hvalue]
  exact ⟨trim_prefix_trim_append hne, trim_eq_trim_append_iff hne⟩

/-- What a lookup keeps is an address that it was given in a reply with the status of success. It is
the trimmed text of the body that the service announced exactly when nothing but blank characters is
left unread of it, as of a body that arrived whole and is short enough; otherwise it is a shorter
beginning of that text. -/
theorem Resolver.kept_of_lookup (endpoints : List String) (ttl : Span) (earlier : List Encounter)
    (e : Encounter) :
    let before := ((new endpoints ttl).run earlier).1
    let after := before.lookup e
    after.1.cache = before.cache ∨
      ∃ i ∈ after.2.inquiries, ∃ r, i.answer = .reply r ∧ r.status = 200 ∧
        (Address.Ip.ofText? after.2.value).isSome ∧
        after.1.cache = some ⟨after.2.value, i.answeredAt⟩ ∧
        ∀ body, r.Announces body →
          after.2.value.toList <+: trim (decodeLossy body) ∧
          (after.2.value.toList = trim (decodeLossy body) ↔
            ∀ c ∈ decodeLossy (r.unread maxBody body), isBlank c) ∧
          (r.whole = true → body.length ≤ maxBody →
            after.2.value.toList = trim (decodeLossy body)) := by
  intro before after
  obtain ⟨hfollows, hcache⟩ := lookup_spec before e
  obtain ⟨others, i, hinquiries, ⟨r, hreply, hstatus, hvalue, haddress⟩, hone⟩ | ⟨-, -, hnone⟩ :=
    hfollows.fetched_cases
  · refine .inr ⟨i, ?_, r, hreply, hstatus, haddress, ?_, fun body h => ?_⟩
    · rw [hinquiries]
      exact List.mem_append_right _ List.mem_cons_self
    · rw [hcache, hone]
      rfl
    · rw [← Http.readLimited_eq_take] at hvalue
      obtain ⟨hfront, hiff⟩ := value_of_announced haddress hvalue h
      refine ⟨hfront, hiff, fun whole short => hiff.mpr ?_⟩
      rw [Http.Reply.unread_of_short h whole short]
      exact fun c hc => by cases hc
  · refine .inl ?_
    rw [hcache, hnone]
    rfl

namespace Sample

def service : String := "http://127.0.0.1:18080/a"

/-- A reply that breaks off within the address. -/
def brokenOff : Http.Reply := ⟨200, [utf8 "203.0.113.7"], false⟩

def indented : Http.Reply := ⟨200, [List.replicate 117 0x20 ++ utf8 "203.0.113.77"], true⟩

def replying (r : Http.Reply) : Encounter :=
  ⟨⟨0⟩, fun _ => .reply r, fun _ => ⟨0⟩⟩

/-- An address that is cut off is kept, whether the body breaks off or is too long. -/
theorem kept_shortened :
    (brokenOff.Announces (utf8 "203.0.113.77") ∧
      ((Resolver.new [service] defaultTtl).lookup (replying brokenOff)).1.cache =
        some ⟨"203.0.113.7", ⟨0⟩⟩ ∧
      "203.0.113.7".toList ≠ trim (decodeLossy (utf8 "203.0.113.77"))) ∧
    (indented.Announces (List.replicate 117 0x20 ++ utf8 "203.0.113.77") ∧
      ((Resolver.new [service] defaultTtl).lookup (replying indented)).1.cache =
        some ⟨"203.0.113.7", ⟨0⟩⟩ ∧
      "203.0.113.7".toList ≠
        trim (decodeLossy (List.replicate 117 0x20 ++ utf8 "203.0.113.77"))) := by
  refine ⟨⟨⟨?_, nofun⟩, ?_, ?_⟩, ⟨⟨?_, fun _ => rfl⟩, ?_, ?_⟩⟩
  all_goals decide +kernel

end Sample

end PublicIp

end HostAlert
