import HostAlert.Proofs.Config.Validation
import HostAlert.Proofs.Delivery.Post
import HostAlert.Proofs.Http.Authority

/-!
# Where a message goes

The token of a bot stands in the target of its requests as it was submitted, so the target names the
bot if the token is plain, and it does not if the token is anything else (`target_names_bot_iff`).
-/

namespace HostAlert.Delivery

open Http (Url)
open Http.Url
open Text.Utf8 (encode)

/-! ### Endpoints -/

theorem withoutSlashes_ofList {s : List Char} (h : s ≠ []) (hlast : s.getLast h ≠ '/')
    (n : Nat) : withoutSlashes (String.ofList (s ++ List.replicate n '/')) = String.ofList s := by
  obtain ⟨front, c, rfl⟩ : ∃ front c, s = front ++ [c] :=
    ⟨_, _, (List.dropLast_concat_getLast h).symm⟩
  have hc : c ≠ '/' := by simpa using hlast
  have hslashes : ∀ d ∈ List.replicate n '/', (d == '/') = true := fun d hd => by
    rw [List.eq_of_mem_replicate hd]
    rfl
  have hstop := List.dropWhile_cons_of_neg (p := (· == '/')) (l := front.reverse)
    fun heq => hc (eq_of_beq heq)
  rw [withoutSlashes, String.toList_ofList, List.reverse_append, List.reverse_replicate,
    List.dropWhile_append_of_pos hslashes, List.reverse_append, List.reverse_singleton,
    List.singleton_append, hstop, List.reverse_cons, List.reverse_reverse]

variable (a : Authority) {token : String}

/-- The base of all URLs with this host and port, with slashes at its end. -/
def baseOf (slashes : Nat) : String :=
  String.ofList ("http://".toList ++ a.text ++ List.replicate slashes '/')

theorem withoutSlashes_baseOf (slashes : Nat) :
    withoutSlashes (baseOf a slashes) = String.ofList ("http://".toList ++ a.text) := by
  have hne : "http://".toList ++ a.text ≠ [] := List.append_ne_nil_of_right_ne_nil _ a.text_ne_nil
  refine withoutSlashes_ofList hne ?_ slashes
  rw [List.getLast_append_of_ne_nil _ a.text_ne_nil]
  intro heq
  exact absurd (Authority.isSlash_of_mem (List.getLast_mem a.text_ne_nil)) (by rw [heq]; decide)

/-- The segment that names a bot, as it is split off. -/
def botSegment (token : String) : List Char :=
  "bot".toList ++ token.toList.filter fun c => !isTabOrNewline c

/-- What comes after the port and a slash in the requests of a bot, once the URL is prepared. -/
def botPath (token : String) : List Char :=
  botSegment token ++ '/' :: "sendMessage".toList

theorem prepared_endpoint (slashes : Nat) (token : String) :
    prepared (endpoint (baseOf a slashes) token).toList =
      "http://".toList ++ (a.text ++ '/' :: botPath token) := by
  have hends : (endpoint (baseOf a slashes) token).toList =
      'h' :: ("ttp://".toList ++ a.text ++ "/bot".toList ++ token.toList ++ "/sendMessag".toList ++
        ['e']) := by
    rw [endpoint, String.toList_append, String.toList_append, String.toList_append,
      withoutSlashes_baseOf, String.toList_ofList]
    simp
  rw [hends, prepared_eq (by decide) (by decide)]
  simp only [List.filter_cons, List.filter_append, a.prepared_text]
  simp [botPath, botSegment, isTabOrNewline]

/-! ### Targets -/

/-- The target has no query and two segments; one names the bot of the token, and the other what is
asked of it. -/
structure NamesBot (token target : String) : Prop where
  query : '?' ∉ target.toList
  segments : ∃ first, target.toList.splitOn '/' = [[], first, "sendMessage".toList] ∧
    percentDecode first = encode ("bot" ++ token).toList

/-- The token can stand in a path as it is: it has none of the marks that divide a URL, nothing that
is dropped from one, and no percent sign that would be read with the digits behind it. -/
structure IsPlain (token : List Char) : Prop where
  marks : ∀ c ∈ token, endsAuthority c = false
  kept : ∀ c ∈ token, isTabOrNewline c = false
  escapes : ¬ HasEscape token

theorem namesBot_iff {rest : List Char} : NamesBot token (a.url rest).target ↔
    (a.url rest).query = none ∧ ∃ first, (a.url rest).path = [first, "sendMessage".toList] ∧
      percentDecode first = encode ("bot".toList ++ token.toList) := by
  have hmarks : ∀ segment ∈ (a.url rest).path, '/' ∉ segment ∧ '?' ∉ segment :=
    fun segment hmem => no_mark_of_mem_segments hmem
  have hquery : '?' ∉ (a.url rest).target.toList ↔ (a.url rest).query = none := by
    rw [mem_target_iff fun s hs => (hmarks s hs).2, Classical.not_not]
  rw [← String.toList_append]
  constructor
  · rintro ⟨hmark, first, hsplit, hdecode⟩
    rw [splitOn_target (hquery.mp hmark) fun s hs => (hmarks s hs).1] at hsplit
    exact ⟨hquery.mp hmark, first, (List.cons.inj hsplit).2, hdecode⟩
  · rintro ⟨hnone, first, hpath, hdecode⟩
    refine ⟨hquery.mpr hnone, first, ?_, hdecode⟩
    rw [splitOn_target hnone fun s hs => (hmarks s hs).1, hpath]

theorem hasEscape_bot_iff {s : List Char} : HasEscape ("bot".toList ++ s) ↔ HasEscape s := by
  show HasEscape ('b' :: 'o' :: 't' :: s) ↔ HasEscape s
  simp [hasEscape_cons_iff]

theorem botSegment_eq_iff : botSegment token = "bot".toList ++ token.toList ↔
    ∀ c ∈ token.toList, isTabOrNewline c = false := by
  rw [botSegment, List.append_cancel_left_eq, List.filter_eq_self]
  simp only [Bool.not_eq_true']

theorem isOrdinary_b (s : List Char) : IsOrdinary ('b' :: s) := by
  constructor
  · simp [isDoubleDot, String.ext_iff]
  · simp [isSingleDot, String.ext_iff]

theorem namesBot_of_plain (h : IsPlain token.toList) :
    NamesBot token (a.url (botPath token)).target := by
  have hsegment := botSegment_eq_iff.mpr h.kept
  have hbot : ∀ c ∈ botSegment token, isSlash c = false ∧ c ≠ '?' ∧ c ≠ '#' := by
    rw [hsegment, List.forall_mem_append]
    exact ⟨by simp [isSlash], fun c hc => endsAuthority_eq_false_iff.mp (h.marks c hc)⟩
  have hmethod : ∀ c ∈ "sendMessage".toList, isSlash c = false ∧ c ≠ '?' ∧ c ≠ '#' := by
    simp [isSlash]
  have hcoded : "sendMessage".toList.flatMap encodeInPath = "sendMessage".toList := by decide
  have hrest : ∀ c ∈ botPath token, c ≠ '?' ∧ c ≠ '#' := by
    rw [botPath, List.forall_mem_append, List.forall_mem_cons]
    exact ⟨fun c hc => (hbot c hc).2, by decide, fun c hc => (hmethod c hc).2⟩
  obtain ⟨hpath, hquery⟩ := a.url_of_no_mark hrest
  have hpair := segments_pair (fun c hc => (hbot c hc).1) (fun c hc => (hmethod c hc).1)
    (isOrdinary_b _) (by rw [hcoded]; exact ⟨by decide, by decide⟩)
  rw [hcoded] at hpair
  refine (namesBot_iff a).mpr ⟨hquery, _, hpath.trans hpair, ?_⟩
  rw [percentDecode_encodeInPath, hsegment]
  exact (percentDecode_cases _).elim (fun plain => plain.2) fun short =>
    absurd (hasEscape_bot_iff.mp short.1) h.escapes

theorem not_prefix_method {part s : List Char}
    (h : percentDecode part = encode ("bot".toList ++ s)) : ¬ part <+: "sendMessage".toList := by
  intro hprefix
  have hbytes : encode ("bot".toList ++ s) = 0x62 :: encode ("ot".toList ++ s) := rfl
  rw [hbytes] at h
  cases part with
  | nil => cases h
  | cons c part =>
    obtain ⟨rfl, -⟩ := List.cons_prefix_cons.mp hprefix
    rw [percentDecode_of_ne (by decide)] at h
    exact absurd (List.cons.inj h).1 (by decide)

theorem plain_of_namesBot (h : NamesBot token (a.url (botPath token)).target) :
    IsPlain token.toList := by
  obtain ⟨-, first, hpath, hdecode⟩ := (namesBot_iff a).mp h
  have hfirst : first ∈ (a.url (botPath token)).path := by
    rw [hpath]
    exact List.mem_cons_self
  obtain rfl | ⟨part, hpart, rfl⟩ := mem_segments hfirst
  · cases hdecode
  rw [percentDecode_encodeInPath] at hdecode
  have hcut : ((botPath token).takeWhile (· != '#')).takeWhile (· != '?') <+: botPath token :=
    (List.takeWhile_prefix _).trans (List.takeWhile_prefix _)
  have hsub : part.Sublist (botSegment token) :=
    (Text.sublist_or_prefix rfl (by simp [isSlash]) hcut hpart).resolve_right
      (not_prefix_method hdecode)
  have hkept : (botSegment token).Sublist ("bot".toList ++ token.toList) :=
    List.filter_sublist.append_left _
  -- the segment stands for as many bytes as the whole token has, so nothing of it was dropped
  obtain ⟨rfl, hescape⟩ := eq_of_percentDecode_eq (hsub.trans hkept) hdecode
  have hwhole := hkept.eq_of_length_le hsub.length_le
  refine ⟨fun c hc => ?_, botSegment_eq_iff.mp hwhole, mt hasEscape_bot_iff.mpr hescape⟩
  have hmem := List.mem_append_right "bot".toList hc
  have hin := (Text.sublist_of_mem_splitOn hpart).subset hmem
  have hmark := List.mem_takeWhile_imp (p := (· != '?')) hin
  have hhash := List.mem_takeWhile_imp (p := (· != '#')) ((List.takeWhile_prefix _).subset hin)
  exact endsAuthority_eq_false_iff.mpr
    ⟨Text.eq_false_of_mem_splitOn hpart hmem, bne_iff_ne.mp hmark, bne_iff_ne.mp hhash⟩

/-- Every message that is not blank is posted to the place that the base names, if it can be sent at
all. The target names the bot exactly if the token is plain. -/
theorem target_names_bot_iff (slashes : Nat) (config : TelegramConfig) {message : String}
    (h : Text.trim message.toList ≠ []) :
    ∃ url, Url.ofText? (endpoint (baseOf a slashes) config.botToken) = some url ∧
      url.secure = false ∧ url.host = a.host ∧ url.port = a.port ∧
      prepare (baseOf a slashes) config message =
        (if url.isSendable then .send ⟨url, some (form config.chatId (messageText message))⟩
          else .fail .badUrl) ∧
      (NamesBot config.botToken url.target ↔ IsPlain config.botToken.toList) := by
  have hread := a.ofText?_eq (prepared_endpoint a slashes config.botToken)
  refine ⟨_, hread, rfl, rfl, rfl, ?_, plain_of_namesBot a, namesBot_of_plain a⟩
  rw [prepare, messageText_ne_empty h, hread]
  rfl

namespace Sample

theorem plain_hostPort : ∀ c ∈ ['h'] ++ ':' :: ['8', '0', '8', '0'],
    endsAuthority c = false ∧ c ≠ '@' ∧ isTabOrNewline c = false := by
  simp [endsAuthority, isSlash, isTabOrNewline]

theorem host?_h : host? ['h'] = some (.name "h") := by decide +kernel

def place : Authority where
  hostText := ['h']
  portText := ['8', '0', '8', '0']
  host := .name "h"
  port := 8080
  plain := plain_hostPort
  parts := rfl
  readHost := host?_h
  readPort := rfl

theorem baseOf_place : baseOf place 2 = "http://h:8080//" := by decide

theorem isPlain_ordinary : IsPlain "1:a".toList :=
  ⟨by simp [endsAuthority, isSlash], by simp [isTabOrNewline], not_hasEscape_of_not_mem (by decide)⟩

theorem ordinary_named : ∃ (p : Submission) (c : TelegramConfig) (url : Url),
    p.validate = .ok c ∧ c.hasCredentials = true ∧ c.botToken = "1:a" ∧
    prepare "http://h:8080//" c "hi" = .send ⟨url, some (form "7" "hi")⟩ ∧
    NamesBot c.botToken url.target := by
  let c := (Submission.usual "1:a" "").settings
  have hmessage : Text.trim "hi".toList ≠ [] := by decide
  obtain ⟨url, hread, -, -, -, hplan, hnames⟩ := target_names_bot_iff place 2 c hmessage
  have hurl : (Url.ofText? (endpoint (baseOf place 2) c.botToken)).any Url.isSendable = true := by
    decide +kernel
  rw [hread] at hurl
  have hsend : url.isSendable = true := hurl
  rw [baseOf_place, if_pos hsend] at hplan
  exact ⟨_, c, url, Submission.validate_usual (by decide) "", by decide, rfl, hplan,
    hnames.mpr isPlain_ordinary⟩

/-- A question mark in the token begins a query. -/
theorem token_split_by_mark : ∃ (p : Submission) (c : TelegramConfig) (call : Http.Call),
    p.validate = .ok c ∧ c.hasCredentials = true ∧ c.botToken = "1?a" ∧
    prepare "http://h:8080//" c "hi" = .send call ∧
    call.url.target = "/bot1?a/sendMessage" ∧ ¬ NamesBot c.botToken call.url.target := by
  let c := (Submission.usual "1?a" "").settings
  have hmessage : Text.trim "hi".toList ≠ [] := by decide
  have hurl : (Url.ofText? (endpoint "http://h:8080//" c.botToken)).any (fun url =>
      url.isSendable && url.target == "/bot1?a/sendMessage") = true := by
    decide +kernel
  obtain ⟨url, hread, hboth⟩ := (Option.any_eq_true _ _).mp hurl
  obtain ⟨hsend, htarget⟩ := Bool.and_eq_true_iff.mp hboth
  rw [beq_iff_eq] at htarget
  refine ⟨_, c, _, Submission.validate_usual (by decide) "", by decide, rfl,
    prepare_of_url hread hsend hmessage, htarget, fun hnames => ?_⟩
  have hmark := hnames.query
  rw [htarget] at hmark
  exact hmark (by decide)

end Sample

end HostAlert.Delivery
