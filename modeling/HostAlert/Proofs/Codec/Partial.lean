import HostAlert.Proofs.Json.Partial

/-!
# Partial documents

Stored settings, submitted settings and filter updates may leave out any of their members and may
have others; what is not given stands for its default (`partial_documents`). Every name must be a
text, though, also that of a member that is passed over, and so must every string that is read
(`Sample.unpaired_refused`).
-/

namespace HostAlert

open Json

namespace TelegramConfig

def layout : Layout TelegramConfig where
  fields :=
    [ ⟨"enabled", bool, fun c v => { c with enabled := v }, enabled,
        extends_bool.steady, fun _ _ => rfl⟩,
      ⟨"bot_token", string, fun c v => { c with botToken := v }, botToken,
        extends_string.steady, fun _ _ => rfl⟩,
      ⟨"chat_id", string, fun c v => { c with chatId := v }, chatId,
        extends_string.steady, fun _ _ => rfl⟩,
      ⟨"cpu_threshold", double, fun c v => { c with cpuThreshold := v }, cpuThreshold,
        steady_double, fun _ _ => rfl⟩,
      ⟨"memory_threshold", double, fun c v => { c with memoryThreshold := v }, memoryThreshold,
        steady_double, fun _ _ => rfl⟩,
      ⟨"disk_threshold", double, fun c v => { c with diskThreshold := v }, diskThreshold,
        steady_double, fun _ _ => rfl⟩,
      ⟨"check_interval", duration, fun c v => { c with checkInterval := v }, checkInterval,
        steady_duration, fun _ _ => rfl⟩,
      ⟨"cooldown", duration, fun c v => { c with cooldown := v }, cooldown,
        steady_duration, fun _ _ => rfl⟩,
      ⟨"custom_message", string, fun c v => { c with customMessage := v }, customMessage,
        extends_string.steady, fun _ _ => rfl⟩ ]
  apart := by
    simp only [List.pairwise_cons, List.forall_mem_cons, List.not_mem_nil, false_implies,
      implies_true, List.Pairwise.nil, and_true]
    and_intros
    all_goals exact ⟨by decide, fun _ _ => rfl, fun _ _ => rfl⟩
  whole c c' h := by
    simp only [List.forall_mem_cons] at h
    obtain ⟨henabled, hbot, hchat, hcpu, hmemory, hdisk, hcheck, hcool, hcustom, -⟩ := h
    cases c
    cases c'
    simp only [mk.injEq]
    exact ⟨henabled, hbot, hchat, hcpu, hmemory, hdisk, hcheck, hcool, hcustom⟩

end TelegramConfig

namespace Submission

def layout : Layout Submission where
  fields :=
    [ ⟨"enabled", bool, fun p v => { p with enabled := v }, enabled,
        extends_bool.steady, fun _ _ => rfl⟩,
      ⟨"bot_token", string, fun p v => { p with botToken := v }, botToken,
        extends_string.steady, fun _ _ => rfl⟩,
      ⟨"chat_id", string, fun p v => { p with chatId := v }, chatId,
        extends_string.steady, fun _ _ => rfl⟩,
      ⟨"cpu_threshold", double, fun p v => { p with cpuThreshold := v }, cpuThreshold,
        steady_double, fun _ _ => rfl⟩,
      ⟨"memory_threshold", double, fun p v => { p with memoryThreshold := v }, memoryThreshold,
        steady_double, fun _ _ => rfl⟩,
      ⟨"disk_threshold", double, fun p v => { p with diskThreshold := v }, diskThreshold,
        steady_double, fun _ _ => rfl⟩,
      ⟨"check_interval", int64, fun p v => { p with checkInterval := v }, checkInterval,
        steady_int64, fun _ _ => rfl⟩,
      ⟨"cooldown", int64, fun p v => { p with cooldown := v }, cooldown,
        steady_int64, fun _ _ => rfl⟩,
      ⟨"custom_message", string, fun p v => { p with customMessage := v }, customMessage,
        extends_string.steady, fun _ _ => rfl⟩ ]
  apart := by
    simp only [List.pairwise_cons, List.forall_mem_cons, List.not_mem_nil, false_implies,
      implies_true, List.Pairwise.nil, and_true]
    and_intros
    all_goals exact ⟨by decide, fun _ _ => rfl, fun _ _ => rfl⟩
  whole p p' h := by
    simp only [List.forall_mem_cons] at h
    obtain ⟨henabled, hbot, hchat, hcpu, hmemory, hdisk, hcheck, hcool, hcustom, -⟩ := h
    cases p
    cases p'
    simp only [mk.injEq]
    exact ⟨henabled, hbot, hchat, hcpu, hmemory, hdisk, hcheck, hcool, hcustom⟩

end Submission

namespace FilterUpdate

def layout : Layout FilterUpdate where
  fields :=
    [ ⟨"id", uint64, fun u v => { u with id := v }, id, steady_uint64, fun _ _ => rfl⟩,
      ⟨"name", string, fun u v => { u with name := v }, name,
        extends_string.steady, fun _ _ => rfl⟩,
      ⟨"url", string, fun u v => { u with url := v }, url, extends_string.steady, fun _ _ => rfl⟩,
      ⟨"rules_count", int64, fun u v => { u with rulesCount := v }, rulesCount,
        steady_int64, fun _ _ => rfl⟩,
      ⟨"bytes_written", int64, fun u v => { u with bytesWritten := v }, bytesWritten,
        steady_int64, fun _ _ => rfl⟩,
      ⟨"enabled", bool, fun u v => { u with enabled := v }, enabled,
        extends_bool.steady, fun _ _ => rfl⟩,
      ⟨"list_type", ListKind.read, fun u v => { u with kind := v }, kind,
        (extends_variant _).steady, fun _ _ => rfl⟩ ]
  apart := by
    simp only [List.pairwise_cons, List.forall_mem_cons, List.not_mem_nil, false_implies,
      implies_true, List.Pairwise.nil, and_true]
    and_intros
    all_goals exact ⟨by decide, fun _ _ => rfl, fun _ _ => rfl⟩
  whole u u' h := by
    simp only [List.forall_mem_cons] at h
    obtain ⟨hid, hname, hurl, hrules, hbytes, henabled, hkind, -⟩ := h
    cases u
    cases u'
    simp only [mk.injEq]
    exact ⟨hid, hname, hurl, hrules, hbytes, henabled, hkind⟩

end FilterUpdate

theorem ListKind.read_text {points : List Nat} {s : Bytes} (h : Spells points s)
    (paired : ∀ n ∈ points, isSurrogate n = false) :
    ListKind.read (0x22 :: (s ++ [0x22])) = .ok (ofName (textOf points), []) := by
  have hstring : string (0x22 :: (s ++ [0x22])) = .ok (textOf points, []) :=
    text_spelled h paired []
  have hvariant : ListKind.read (0x22 :: (s ++ [0x22])) =
      stringOf (fun name => some (ofName name)) (0x22 :: (s ++ [0x22])) := rfl
  rw [hvariant, stringOf, hstring]
  rfl

/-- In any of the three kinds of documents the members that are given replace the defaults, and
nothing else matters. A list is of an unknown kind if its kind is given by any other text than the
two that are known. -/
theorem partial_documents :
    TelegramConfig.layout.Decodes TelegramConfig.read
      ⟨false, "", "", 90, 90, 90, .ofSeconds 60, .ofSeconds 60, ""⟩ ∧
    Submission.layout.Decodes Submission.read ⟨false, "", "", 0, 0, 0, 0, 0, ""⟩ ∧
    FilterUpdate.layout.Decodes FilterUpdate.read ⟨0, "", "", 0, 0, false, .unknown⟩ ∧
    ∀ (points : List Nat) (s : Bytes), Spells points s → (∀ n ∈ points, isSurrogate n = false) →
      points ≠ codes "blocklist" → points ≠ codes "allowlist" →
      ListKind.read (0x22 :: (s ++ [0x22])) = .ok (.unknown, []) := by
  refine ⟨TelegramConfig.layout.decodes _, Submission.layout.decodes _,
    FilterUpdate.layout.decodes _, fun points s h paired block allow => ?_⟩
  have hcodes : codes (textOf points) = points :=
    codes_textOf fun n hn => ⟨h.lt n hn, paired n hn⟩
  have hblock : textOf points ≠ "blocklist" := fun heq => block (by rw [← hcodes, heq])
  have hallow : textOf points ≠ "allowlist" := fun heq => allow (by rw [← hcodes, heq])
  rw [ListKind.read_text h paired, ListKind.ofName, if_neg hblock, if_neg hallow]

namespace Sample

theorem gives_object {fields : List (String × Value)} (once : ∀ f ∈ TelegramConfig.layout.fields,
      (Value.memberItems fields).Pairwise fun i j =>
        i.name = codes f.name → j.name ≠ codes f.name)
    (taken : ∀ f ∈ TelegramConfig.layout.fields, ∀ i ∈ Value.memberItems fields,
      i.name = codes f.name → ∃ a, f.read i.value = .ok (a, [])) :
    TelegramConfig.layout.Gives (Value.memberItems fields) (Value.object fields).bytes :=
  ⟨⟨[], _, [], by simp, .nil, .nil, Value.isObject_bytes fields⟩, once, taken⟩

def strange : List (String × Value) :=
  [("zone", .list [.null, .object []]), ("cooldown", .whole 90000), ("enabled", .bool true)]

def plain : List (String × Value) :=
  [("enabled", .bool true), ("cooldown", .whole 90000)]

theorem gives_strange : TelegramConfig.layout.Gives (Value.memberItems strange)
    (Value.object strange).bytes :=
  gives_object (by decide +kernel) (by decide +kernel)

theorem gives_plain : TelegramConfig.layout.Gives (Value.memberItems plain)
    (Value.object plain).bytes :=
  gives_object (by decide +kernel) (by decide +kernel)

/-- Both documents are read as the same settings, with the defaults in the place of all others. -/
theorem strange_as_plain : ∃ c, document TelegramConfig.read (Value.object strange).bytes = .ok c ∧
    document TelegramConfig.read (Value.object plain).bytes = .ok c ∧
    c.enabled = true ∧ c.cooldown = .ofSeconds 90 ∧ c.checkInterval = .ofSeconds 60 := by
  obtain ⟨stored, -, -, -⟩ := partial_documents
  have paired (fields : List (String × Value)) :
      ∀ i ∈ Value.memberItems fields, ∀ n ∈ i.name, isSurrogate n = false := by
    intro i hi
    obtain ⟨m, -, rfl⟩ := List.mem_map.mp hi
    exact paired_codes m.1
  obtain ⟨c, hread, given, kept⟩ := stored.overrides _ _ gives_strange (paired strange)
  have hsame := stored.stable _ _ _ _ gives_strange gives_plain (paired strange) (paired plain)
    (.swap _ _ [])
  simp only [TelegramConfig.layout, List.forall_mem_cons] at given kept
  obtain ⟨enabled, -, -, -, -, -, -, cooldown, -⟩ := given
  obtain ⟨-, -, -, -, -, -, checkInterval, -⟩ := kept
  have henabled := enabled _ (.tail _ (.tail _ (.head _))) rfl
  have hcooldown := cooldown _ (.tail _ (.head _)) rfl
  have hduration : TelegramConfig.duration (Value.whole 90000).bytes = .ok (.ofSeconds 90, []) :=
    rfl
  rw [show bool _ = _ from (rereads_bool true).alone] at henabled
  rw [show TelegramConfig.duration _ = _ from hduration] at hcooldown
  refine ⟨c, hread, hsame ▸ hread, (Prod.mk.inj (Except.ok.inj henabled)).1.symm,
    (Prod.mk.inj (Except.ok.inj hcooldown)).1.symm, checkInterval (by decide)⟩

/-- A document whose only member has half of a surrogate pair as its name. -/
def unpaired : Bytes := utf8 "\x7b\x22\x5cud800\x22:1\x7d"

theorem spells_unpaired : Spells [0xD800] (utf8 "\x5cud800") :=
  .unit _ _ _ _ 0xD800 rfl (fun _ ⟨_, _, _, _, _, _, h, _⟩ => by cases h) .nil

/-- The document is not decoded, although its member is none of the settings. Nor is the same string
as the kind of a list, although it is another one than the two that are known. -/
theorem unpaired_refused :
    (∃ items, TelegramConfig.layout.Gives items unpaired ∧
      ∀ c, document TelegramConfig.read unpaired ≠ .ok c) ∧
    ∃ points s, Spells points s ∧ points ≠ codes "blocklist" ∧ points ≠ codes "allowlist" ∧
      ∀ kind rest, ListKind.read (0x22 :: (s ++ [0x22])) ≠ .ok (kind, rest) := by
  have hdigit : IsDigits [byte '1'] := ⟨List.cons_ne_nil _ _, List.forall_mem_singleton.mpr rfl⟩
  have hnumber : IsValue ([byte '1'] ++ ([] ++ [])) :=
    .number (.positive (.digits hdigit (by decide)) .none .none)
  have hitems : IsItems .curly [⟨[0xD800], utf8 "1"⟩] _ :=
    .last (.curly spells_unpaired .nil .nil) hnumber .nil
  have hgives : TelegramConfig.layout.Gives [⟨[0xD800], utf8 "1"⟩] unpaired :=
    ⟨⟨[], _, [], rfl, .nil, .nil, .items .nil hitems⟩, by decide +kernel, by decide +kernel⟩
  have hdocument : (document TelegramConfig.read unpaired).isOk = false := by decide +kernel
  have hkind : (ListKind.read (0x22 :: (utf8 "\x5cud800" ++ [0x22]))).isOk = false := by
    decide +kernel
  refine ⟨⟨_, hgives, fun c hc => ?_⟩, _, _, spells_unpaired, by decide, by decide,
    fun kind rest hc => ?_⟩
  · rw [hc] at hdocument
    cases hdocument
  · rw [hc] at hkind
    cases hkind

end Sample

end HostAlert
