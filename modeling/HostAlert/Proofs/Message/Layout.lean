import HostAlert.Message.Compose
import HostAlert.Proofs.Text.Digits
import HostAlert.Proofs.Text.Trim

/-!
# The lines of messages

Cutting a message at its line feeds gives the lines that it was made of, if no text in it has a line
feed itself (`linesOf_render`): amounts never have one. Whatever the texts are, a message begins and
ends with a character that is not blank (`Framed`), as its first line does and its last line does.
`messages_laid_out` says what the lines are.
-/

namespace HostAlert

namespace Text

/-! ### Single lines -/

def IsLine (s : String) : Prop :=
  '\n' ∉ s.toList

instance (s : String) : Decidable (IsLine s) :=
  inferInstanceAs (Decidable ('\n' ∉ s.toList))

theorem mem_of_mem_trim {s : List Char} {c : Char} (h : c ∈ trim s) : c ∈ s := by
  have hfront := trimEnd_prefix (trimStart s)
  exact (List.dropWhile_suffix _).subset (hfront.subset h)

namespace IsLine

theorem append {s t : String} (hs : IsLine s) (ht : IsLine t) : IsLine (s ++ t) := by
  unfold IsLine
  rw [String.toList_append, List.mem_append]
  rintro (h | h)
  · exact hs h
  · exact ht h

theorem ofList {s : List Char} (h : '\n' ∉ s) : IsLine (String.ofList s) := by
  unfold IsLine
  rwa [String.toList_ofList]

theorem trimmed {s : String} (h : IsLine s) : IsLine (trimmed s) :=
  .ofList fun hfeed => h (mem_of_mem_trim hfeed)

theorem intercalate {sep : String} {parts : List String} (hsep : IsLine sep)
    (h : ∀ s ∈ parts, IsLine s) : IsLine (String.intercalate sep parts) := by
  induction parts with
  | nil =>
    rw [String.intercalate_nil]
    decide
  | cons s parts ih =>
    obtain ⟨hs, hparts⟩ := List.forall_mem_cons.mp h
    cases parts with
    | nil =>
      rw [String.intercalate_singleton]
      exact hs
    | cons t parts =>
      rw [String.intercalate_cons_cons]
      exact (hs.append hsep).append (ih hparts)

end IsLine

theorem feed_not_mem_decimal (n : Nat) : '\n' ∉ decimal n := fun h =>
  absurd (isDigit_of_mem_decimal h) (by decide)

theorem mem_of_mem_grouped {s : List Char} {c : Char} (h : c ∈ grouped s) : c = ',' ∨ c ∈ s := by
  induction s with
  | nil => cases h
  | cons d s ih =>
    unfold grouped at h
    split at h
    · rcases List.mem_cons.mp h with rfl | h
      · exact .inr List.mem_cons_self
      · rcases List.mem_cons.mp h with rfl | h
        · exact .inl rfl
        · exact (ih h).imp_right (List.mem_cons_of_mem d)
    · rcases List.mem_cons.mp h with rfl | h
      · exact .inr List.mem_cons_self
      · exact (ih h).imp_right (List.mem_cons_of_mem d)

theorem isLine_groupedNat (n : Nat) : IsLine (groupedNat n) := by
  refine .ofList fun h => ?_
  rcases mem_of_mem_grouped h with hcomma | hdigit
  · exact absurd hcomma (by decide)
  · exact feed_not_mem_decimal n hdigit

theorem isLine_groupedInt (n : Int) : IsLine (groupedInt n) := by
  unfold groupedInt
  split
  · exact .append (by decide) (isLine_groupedNat _)
  · exact isLine_groupedNat _

end Text

namespace Message

open Text (IsLine isBlank trimmed)

/-! ### Amounts -/

theorem isLine_shortTenths (x : Float) : IsLine (Decimal.shortTenths x) := by
  unfold Decimal.shortTenths
  split
  · next p _ =>
    refine .ofList ?_
    rw [List.mem_append, Decimal.numeralOfTenths]
    rintro (hsign | hdigit)
    · split at hsign
      · exact absurd hsign (by decide)
      · cases hsign
    · split at hdigit
      · exact Text.feed_not_mem_decimal _ hdigit
      · rcases List.mem_append.mp hdigit with hwhole | hfraction
        · exact Text.feed_not_mem_decimal _ hwhole
        · rcases List.mem_cons.mp hfraction with hpoint | hfraction
          · exact absurd hpoint (by decide)
          · exact Text.feed_not_mem_decimal _ hfraction
  · split
    · decide
    · split <;> decide

theorem isLine_percentage (x : Float) : IsLine (percentage x) := by
  unfold percentage
  split
  · exact (isLine_shortTenths _).append (by decide)
  · decide

theorem isLine_bytesIn (v : UInt64) (unit : Nat) : IsLine (bytesIn v unit) := by
  have hunits : ∀ u ≤ largestUnit, IsLine (byteUnits.getD u "") := by decide
  have hname := hunits (min unit largestUnit) (Nat.min_le_right _ _)
  unfold bytesIn
  dsimp only
  refine .append (.append ?_ (by decide)) hname
  split
  · exact Text.isLine_groupedNat _
  · exact isLine_shortTenths _

theorem isLine_capacity (current total : UInt64) : IsLine (capacity current total) := by
  unfold capacity
  split
  · decide
  · exact ((isLine_bytesIn _ _).append (by decide)).append (isLine_bytesIn _ _)

theorem isLine_usage (used total : UInt64) (percent : Float) :
    IsLine (usage used total percent) := by
  unfold usage
  split
  · decide
  · exact (((isLine_capacity _ _).append (by decide)).append (isLine_percentage _)).append
      (by decide)

theorem isLine_uptime (seconds : UInt64) : IsLine (uptime seconds) := by
  have hpart (n : Nat) {unit : String} (h : IsLine unit) :
      IsLine (String.ofList (Text.decimal n) ++ unit) :=
    (IsLine.ofList (Text.feed_not_mem_decimal n)).append h
  unfold uptime
  dsimp only
  split
  · decide
  · split
    · exact ((hpart _ (by decide)).append (hpart _ (by decide))).append (hpart _ (by decide))
    · split
      · exact (hpart _ (by decide)).append (hpart _ (by decide))
      · exact hpart _ (by decide)

theorem isLine_uptimeText (seconds : UInt64) : IsLine (uptimeText seconds) := by
  unfold uptimeText
  split
  · decide
  · exact isLine_uptime seconds

/-! ### Texts and what stands for blank ones -/

def IsBlank (s : String) : Prop :=
  s.toList.all isBlank = true

instance (s : String) : Decidable (IsBlank s) :=
  inferInstanceAs (Decidable (_ = true))

theorem isEmpty_trimmed_iff (s : String) : (trimmed s).isEmpty = true ↔ IsBlank s := by
  rw [Text.isEmpty_trimmed, Text.trim_eq_nil_iff, IsBlank, List.all_eq_true]

/-- The trimmed text, or what stands for a blank one. -/
def shown (s substitute : String) : String :=
  if IsBlank s then substitute else trimmed s

theorem orElse_eq (s substitute : String) : orElse s substitute = shown s substitute := by
  unfold orElse shown
  simp only [isEmpty_trimmed_iff]

theorem isLine_shown {s substitute : String} (hs : IsLine s) (h : IsLine substitute) :
    IsLine (shown s substitute) := by
  unfold shown
  split
  · exact h
  · exact hs.trimmed

/-- A text in brackets after a space, unless it is blank. -/
def inBrackets (s : String) : String :=
  if IsBlank s then "" else " (" ++ trimmed s ++ ")"

theorem osText_eq (info : Snapshot) :
    osText info = shown info.osVersion (shown info.os "-") ++ inBrackets info.arch := by
  unfold osText inBrackets
  simp only [orElse_eq, isEmpty_trimmed_iff]
  split
  · rw [String.append_empty]
  · simp only [String.append_assoc]

theorem cpuText_eq (info : Snapshot) : cpuText info = shown info.cpuModel "Unknown CPU" ++
    if info.numCpu = 0 then "" else " (" ++ Text.groupedNat info.numCpu.toNat ++ " cores)" := by
  unfold cpuText
  simp only [orElse_eq]
  split
  · rw [String.append_empty]
  · simp only [String.append_assoc]

/-! ### The overview -/

def hostLines (info : Snapshot) : List String :=
  [ "🖥️ System Overview",
    "🏷️ Hostname: " ++ shown info.hostname "-",
    "💻 OS: " ++ (shown info.osVersion (shown info.os "-") ++ inBrackets info.arch),
    "🧠 CPU: " ++ (shown info.cpuModel "Unknown CPU" ++
      if info.numCpu = 0 then "" else " (" ++ Text.groupedNat info.numCpu.toNat ++ " cores)"),
    "🔥 CPU Usage: " ++ percentage info.cpuUsage,
    "🗃️ Memory Usage: " ++ (if info.memoryTotal = 0 then "-" else
      capacity info.memoryUsed info.memoryTotal ++ " (" ++ percentage info.memoryUsage ++ ")"),
    "📟 Memory Free: " ++ (if info.memoryTotal = 0 then "-" else
      bytesIn info.memoryFree (chooseUnit info.memoryTotal) ++ " / " ++
        bytesIn info.memoryTotal (chooseUnit info.memoryTotal)),
    "💽 Disk Usage: " ++ (if info.diskTotal = 0 then "-" else
      capacity info.diskUsed info.diskTotal ++ " (" ++ percentage info.diskUsage ++ ")"),
    "📂 Disk Free: " ++ (if info.diskTotal = 0 then "-" else
      bytesIn info.diskFree (chooseUnit info.diskTotal) ++ " / " ++
        bytesIn info.diskTotal (chooseUnit info.diskTotal)),
    "📁 Disk Path: " ++ shown info.diskPath "-",
    "🌐 Local IPs: " ++ (if info.localIps = [] then "-" else
      String.intercalate ", " info.localIps),
    "🛰️ Public IP: " ++ shown info.publicIp "-",
    "⏱️ Uptime: " ++ (if info.uptimeSeconds = 0 then "-" else uptime info.uptimeSeconds) ]

theorem overviewLines_eq (info : Snapshot) : overviewLines info = hostLines info := by
  unfold overviewLines hostLines
  simp only [orElse_eq, osText_eq, cpuText_eq, usage, localIpsText, uptimeText, List.isEmpty_iff]
  rfl

/-- No text of the snapshot has a line feed. -/
structure SingleLined (info : Snapshot) : Prop where
  os : IsLine info.os
  osVersion : IsLine info.osVersion
  arch : IsLine info.arch
  hostname : IsLine info.hostname
  cpuModel : IsLine info.cpuModel
  diskPath : IsLine info.diskPath
  localIps : ∀ ip ∈ info.localIps, IsLine ip
  publicIp : IsLine info.publicIp

theorem isLine_osText {info : Snapshot} (h : SingleLined info) : IsLine (osText info) := by
  rw [osText_eq]
  refine .append (isLine_shown h.osVersion (isLine_shown h.os (by decide))) ?_
  unfold inBrackets
  split
  · decide
  · exact (IsLine.append (by decide) h.arch.trimmed).append (by decide)

theorem isLine_cpuText {info : Snapshot} (h : SingleLined info) : IsLine (cpuText info) := by
  rw [cpuText_eq]
  refine .append (isLine_shown h.cpuModel (by decide)) ?_
  split
  · decide
  · exact (IsLine.append (by decide) (Text.isLine_groupedNat _)).append (by decide)

theorem isLine_localIpsText {ips : List String} (h : ∀ ip ∈ ips, IsLine ip) :
    IsLine (localIpsText ips) := by
  unfold localIpsText
  split
  · decide
  · exact .intercalate (by decide) h

theorem isLine_of_mem_overviewLines {info : Snapshot} (h : SingleLined info) :
    ∀ line ∈ overviewLines info, IsLine line := by
  have hdash {s : String} (hs : IsLine s) : IsLine (orElse s "-") :=
    orElse_eq s "-" ▸ isLine_shown hs (by decide)
  simp only [overviewLines, List.forall_mem_cons, List.not_mem_nil, false_implies, implies_true,
    and_true]
  exact ⟨by decide, .append (by decide) (hdash h.hostname),
    .append (by decide) (isLine_osText h), .append (by decide) (isLine_cpuText h),
    .append (by decide) (isLine_percentage _), .append (by decide) (isLine_usage _ _ _),
    .append (by decide) (isLine_capacity _ _), .append (by decide) (isLine_usage _ _ _),
    .append (by decide) (isLine_capacity _ _), .append (by decide) (hdash h.diskPath),
    .append (by decide) (isLine_localIpsText h.localIps),
    .append (by decide) (hdash h.publicIp), .append (by decide) (isLine_uptimeText _)⟩

/-! ### Cutting -/

/-- The parts of a text between its line feeds. -/
def linesOf (s : String) : List String :=
  (s.toList.splitOn '\n').map String.ofList

theorem linesOf_render {lines : List String} (nonempty : lines ≠ [])
    (h : ∀ line ∈ lines, IsLine line) : linesOf (render lines) = lines := by
  have hlines : ∀ line ∈ lines.map String.toList, '\n' ∉ line :=
    List.forall_mem_map.mpr h
  have hfeed : "\n".toList = ['\n'] := by decide
  rw [linesOf, render, String.toList_intercalate, hfeed, List.splitOn_intercalate '\n' hlines
    (mt List.map_eq_nil_iff.mp nonempty), List.map_map]
  exact List.map_id'' (fun line => String.ofList_toList) lines

/-! ### Ends of messages -/

/-- The text begins and ends with characters that are not blank. -/
structure Framed (s : String) : Prop where
  first : ∃ c, s.toList.head? = some c ∧ isBlank c = false
  last : ∃ c, s.toList.getLast? = some c ∧ isBlank c = false

/-- A text that is not blank is framed once it is trimmed. -/
theorem framed_trimmed {s : String} (h : Text.trim s.toList ≠ []) : Framed (trimmed s) where
  first := by
    obtain ⟨c, rest, htrim⟩ := List.exists_cons_of_ne_nil h
    refine ⟨c, ?_, Text.not_blank_of_trim_eq_cons htrim⟩
    rw [Text.toList_trimmed, htrim, List.head?_cons]
  last := by
    have hlast := List.getLast?_eq_some_getLast h
    refine ⟨(Text.trim s.toList).getLast h, ?_, Text.not_blank_of_getLast?_trim hlast⟩
    rw [Text.toList_trimmed, hlast]

theorem head?_render {line : String} {c : Char} (h : line.toList.head? = some c)
    (lines : List String) : (render (line :: lines)).toList.head? = some c := by
  unfold render
  cases lines with
  | nil =>
    rw [String.intercalate_singleton]
    exact h
  | cons next lines =>
    rw [String.intercalate_cons_cons, String.toList_append, String.toList_append,
      List.append_assoc, List.head?_append, h]
    rfl

theorem getLast?_render (lines : List String) {line : String} {c : Char}
    (h : line.toList.getLast? = some c) : (render (lines ++ [line])).toList.getLast? = some c := by
  induction lines with
  | nil =>
    rw [List.nil_append, render, String.intercalate_singleton]
    exact h
  | cons first lines ih =>
    obtain ⟨next, rest, hrest⟩ : ∃ next rest, lines ++ [line] = next :: rest :=
      List.exists_cons_of_ne_nil (by simp)
    rw [List.cons_append, hrest, render, String.intercalate_cons_cons, String.toList_append,
      List.getLast?_append]
    rw [hrest, render] at ih
    rw [ih]
    rfl

/-- A message begins with the custom message or, if that is blank, with its own first line. -/
theorem first_of_opening (customMessage : String) {line : String} {c : Char}
    (h : line.toList.head? = some c) (hc : isBlank c = false) (lines : List String) :
    ∃ c, (render (opening customMessage ++ line :: lines)).toList.head? = some c ∧
      isBlank c = false := by
  unfold opening
  dsimp only
  split
  · exact ⟨c, head?_render h lines, hc⟩
  · next hcustom =>
    rw [Text.isEmpty_trimmed] at hcustom
    obtain ⟨d, rest, hrest⟩ := List.exists_cons_of_ne_nil hcustom
    refine ⟨d, head?_render ?_ _, Text.not_blank_of_trim_eq_cons hrest⟩
    rw [Text.toList_trimmed, hrest]
    rfl

theorem last_of_uptime (seconds : UInt64) : ∃ c,
    ("⏱️ Uptime: " ++ uptimeText seconds).toList.getLast? = some c ∧ isBlank c = false := by
  rw [String.toList_append, List.getLast?_append]
  unfold uptimeText
  split
  · exact ⟨'-', by decide, by decide⟩
  · next h =>
    have hne : seconds.toNat ≠ 0 := fun hzero => h (UInt64.toNat_inj.mp hzero)
    have hlast (s : String) : (s ++ "m").toList.getLast? = some 'm' := by simp
    refine ⟨'m', ?_, by decide⟩
    unfold uptime
    dsimp only
    rw [if_neg hne]
    split
    · rw [← String.append_assoc, hlast]
      rfl
    · split
      · rw [← String.append_assoc, hlast]
        rfl
      · rw [hlast]
        rfl

theorem last_of_overview (lines : List String) (info : Snapshot) :
    ∃ c, (render (lines ++ overviewLines info)).toList.getLast? = some c ∧ isBlank c = false := by
  obtain ⟨c, hlast, hc⟩ := last_of_uptime info.uptimeSeconds
  have hsplit : overviewLines info = (overviewLines info).take 12 ++
      ["⏱️ Uptime: " ++ uptimeText info.uptimeSeconds] := rfl
  refine ⟨c, ?_, hc⟩
  rw [hsplit, ← List.append_assoc]
  exact getLast?_render _ hlast

theorem framed_alert (config : TelegramConfig) (m : Metric) (value threshold : Float)
    (info : Snapshot) : Framed (alert config m value threshold info) where
  first := by
    have hhead : (headline m).toList.head? = some '🚨' := by cases m <;> decide
    unfold alert alertLines
    rw [List.append_assoc]
    exact first_of_opening _ hhead (by decide) _
  last := last_of_overview _ info

theorem framed_filterUpdate (config : TelegramConfig) (update : FilterUpdate) (info : Snapshot) :
    Framed (filterUpdate config update info) where
  first := by
    obtain ⟨c, hhead, hc⟩ :
        ∃ c, (updateHeader update.kind).toList.head? = some c ∧ isBlank c = false := by
      cases update.kind with
      | allowlist => exact ⟨'✅', by decide, by decide⟩
      | blocklist => exact ⟨'🚫', by decide, by decide⟩
      | unknown => exact ⟨'🔄', by decide, by decide⟩
    unfold filterUpdate filterUpdateLines
    simp only [List.append_assoc]
    exact first_of_opening _ hhead hc _
  last := last_of_overview _ info

/-! ### Messages -/

theorem opening_eq (customMessage : String) : opening customMessage =
    if IsBlank customMessage then [] else [trimmed customMessage] := by
  unfold opening
  simp only [isEmpty_trimmed_iff]

theorem isLine_of_mem_opening {customMessage : String} (h : IsLine customMessage) :
    ∀ line ∈ opening customMessage, IsLine line := by
  rw [opening_eq]
  split
  · exact List.forall_mem_nil _
  · exact List.forall_mem_singleton.mpr h.trimmed

theorem isLine_of_mem_lineIf {line : String} (h : IsLine line) (wanted : Bool) :
    ∀ l ∈ lineIf wanted line, IsLine l := by
  unfold lineIf
  split
  · exact List.forall_mem_singleton.mpr h
  · exact List.forall_mem_nil _

theorem isLine_of_mem_alertLines {config : TelegramConfig} {info : Snapshot}
    (hcustom : IsLine config.customMessage) (hinfo : SingleLined info) (m : Metric)
    (value threshold : Float) : ∀ line ∈ alertLines config m value threshold info, IsLine line := by
  have hname : IsLine m.displayName := by cases m <;> decide
  simp only [alertLines, List.forall_mem_append, List.forall_mem_cons, List.not_mem_nil,
    false_implies, implies_true, and_true, and_assoc]
  exact ⟨isLine_of_mem_opening hcustom, (IsLine.append (by decide) hname).append (by decide),
    by decide, by decide, .append (by decide) hname, .append (by decide) (isLine_percentage _),
    .append (by decide) (isLine_percentage _), by decide, isLine_of_mem_overviewLines hinfo⟩

theorem isLine_of_mem_filterUpdateLines {config : TelegramConfig} {update : FilterUpdate}
    {info : Snapshot} (hcustom : IsLine config.customMessage) (hname : IsLine update.name)
    (hurl : IsLine update.url) (hinfo : SingleLined info) :
    ∀ line ∈ filterUpdateLines config update info, IsLine line := by
  have hheader : IsLine (updateHeader update.kind) := by cases update.kind <;> decide
  have hkind : IsLine (kindLabel update.kind) := by cases update.kind <;> decide
  have hstatus : IsLine (if update.enabled then "Enabled" else "Disabled") := by
    cases update.enabled <;> decide
  have hlist : IsLine (orElse update.name "-") :=
    orElse_eq update.name "-" ▸ isLine_shown hname (by decide)
  simp only [filterUpdateLines, List.forall_mem_append, List.forall_mem_cons, List.not_mem_nil,
    false_implies, implies_true, and_true, and_assoc]
  exact ⟨isLine_of_mem_opening hcustom, hheader, .append (by decide) hlist,
    isLine_of_mem_lineIf (.append (by decide) (Text.isLine_groupedNat _)) _,
    .append (by decide) hkind,
    isLine_of_mem_lineIf (.append (by decide) hurl) _,
    (IsLine.append (by decide) (Text.isLine_groupedInt _)).append (by decide),
    isLine_of_mem_lineIf (.append (by decide) (isLine_bytesIn _ _)) _,
    .append (by decide) hstatus, by decide,
    isLine_of_mem_overviewLines hinfo⟩

theorem linesOf_alert {config : TelegramConfig} {info : Snapshot}
    (hcustom : IsLine config.customMessage) (hinfo : SingleLined info) (m : Metric)
    (value threshold : Float) : linesOf (alert config m value threshold info) =
      alertLines config m value threshold info :=
  linesOf_render (by simp [alertLines])
    (isLine_of_mem_alertLines hcustom hinfo m value threshold)

theorem linesOf_filterUpdate {config : TelegramConfig} {update : FilterUpdate} {info : Snapshot}
    (hcustom : IsLine config.customMessage) (hname : IsLine update.name)
    (hurl : IsLine update.url) (hinfo : SingleLined info) :
    linesOf (filterUpdate config update info) = filterUpdateLines config update info :=
  linesOf_render (by simp [filterUpdateLines])
    (isLine_of_mem_filterUpdateLines hcustom hname hurl hinfo)

/-- The report of a filter update and an alert have these lines, if no text in them has a line feed:
the custom message unless it is blank, their own ones, of which three of a report may be missing,
and the thirteen on the host. Whatever the texts are, neither begins or ends with a blank
character. -/
theorem messages_laid_out (config : TelegramConfig) (info : Snapshot) :
    (∀ update : FilterUpdate, IsLine config.customMessage → IsLine update.name →
      IsLine update.url → SingleLined info → linesOf (filterUpdate config update info) =
        (if IsBlank config.customMessage then [] else [trimmed config.customMessage]) ++
        [ match update.kind with
            | .allowlist => "✅ Allowlist Update"
            | .blocklist => "🚫 Blocklist Update"
            | .unknown => "🔄 Filter Update",
          "📛 List: " ++ shown update.name "-" ] ++
        (if update.id = 0 then [] else ["🆔 ID: #" ++ Text.groupedNat update.id.toNat]) ++
        [ "🗂️ Type: " ++ match update.kind with
            | .allowlist => "Allowlist"
            | .blocklist => "Blocklist"
            | .unknown => "Filter" ] ++
        (if update.url = "" then [] else ["🔗 Source: " ++ update.url]) ++
        ["📊 Rules: " ++ Text.groupedInt (max update.rulesCount.toInt 0) ++ " entries"] ++
        (if 0 < update.bytesWritten.toInt then
          ["📦 Size: " ++ bytes update.bytesWritten.toInt.toNat.toUInt64] else []) ++
        [ "⚙️ Status: " ++ (if update.enabled then "Enabled" else "Disabled"), "" ] ++
        hostLines info) ∧
    (∀ (m : Metric) (value threshold : Float), IsLine config.customMessage → SingleLined info →
      linesOf (alert config m value threshold info) =
        (if IsBlank config.customMessage then [] else [trimmed config.customMessage]) ++
        [ "🚨 Alert: " ++ m.displayName ++ " exceeded threshold", "", "📈 Metrics",
          "📍 Metric: " ++ m.displayName, "🔥 Current: " ++ percentage value,
          "🎯 Threshold: " ++ percentage threshold, "" ] ++
        hostLines info) ∧
    (hostLines info).length = 13 ∧
    (∀ update : FilterUpdate, Framed (filterUpdate config update info)) ∧
    ∀ (m : Metric) (value threshold : Float), Framed (alert config m value threshold info) := by
  refine ⟨fun update hcustom hname hurl hinfo => ?_, fun m value threshold hcustom hinfo => ?_, rfl,
    fun update => framed_filterUpdate config update info, fun m value threshold =>
      framed_alert config m value threshold info⟩
  · have hid : (update.id != 0) = !decide (update.id = 0) := rfl
    have hsource : update.url.isEmpty = decide (update.url = "") :=
      Bool.eq_iff_iff.mpr (String.isEmpty_iff.trans decide_eq_true_iff.symm)
    rw [linesOf_filterUpdate hcustom hname hurl hinfo]
    simp only [filterUpdateLines, opening_eq, orElse_eq, overviewLines_eq, lineIf, hid, hsource,
      Bool.not_eq_true', decide_eq_false_iff_not, decide_eq_true_eq, ite_not]
    rfl
  · rw [linesOf_alert hcustom hinfo]
    simp only [alertLines, opening_eq, overviewLines_eq]
    rfl

namespace Sample

def untitled : TelegramConfig :=
  { TelegramConfig.initial with customMessage := " \t" }

/-- An update of a list without a name or source, with more rules removed than there were. -/
def nameless : FilterUpdate :=
  ⟨1204, " ", "", -3, 2048, true, .blocklist⟩

def obscure : Snapshot :=
  { Snapshot.empty with
    numCpu := 8, arch := "x86_64 ", localIps := ["10.0.0.2", "10.0.0.3"], uptimeSeconds := 59 }

theorem singleLined_obscure : SingleLined obscure where
  os := by decide
  osVersion := by decide
  arch := by decide
  hostname := by decide
  cpuModel := by decide
  diskPath := by decide
  localIps := by
    rw [obscure, List.forall_mem_cons, List.forall_mem_singleton]
    decide
  publicIp := by decide

theorem nameless_laid_out : linesOf (filterUpdate untitled nameless obscure) =
    [ "🚫 Blocklist Update", "📛 List: -", "🆔 ID: #1,204", "🗂️ Type: Blocklist",
      "📊 Rules: 0 entries", "📦 Size: 2 KB", "⚙️ Status: Enabled", "",
      "🖥️ System Overview", "🏷️ Hostname: -", "💻 OS: - (x86_64)", "🧠 CPU: Unknown CPU (8 cores)",
      "🔥 CPU Usage: 0%", "🗃️ Memory Usage: -", "📟 Memory Free: -", "💽 Disk Usage: -",
      "📂 Disk Free: -", "📁 Disk Path: -", "🌐 Local IPs: 10.0.0.2, 10.0.0.3",
      "🛰️ Public IP: -", "⏱️ Uptime: 0m" ] := by
  obtain ⟨hreport, -⟩ := messages_laid_out untitled obscure
  rw [hreport nameless (by decide) (by decide) (by decide) singleLined_obscure]
  decide +kernel

end Sample

end Message

end HostAlert
