import HostAlert.Codec.FilterUpdate
import HostAlert.Codec.Snapshot
import HostAlert.Proofs.Json.Refusal

/-!
# Updates and snapshots read again

The document of a filter update is always read as that update, and that of a snapshot exactly if its
usages are finite (`updates_and_snapshots_reread`). A snapshot has no defaults: its document without
any one of its members is refused, whether the usages are finite or not.
-/

namespace HostAlert

open Json

namespace FilterUpdate

theorem rereads_kind (k : ListKind) : Rereads ListKind.read (.text k.name) k :=
  rereads_variant (congrArg some k.ofName_name)

theorem rereads_toValue (u : FilterUpdate) : Rereads read u.toValue u :=
  rereads_record
    (.written rfl rfl (rereads_uint64 u.id) <|
      .written rfl rfl (rereads_text u.name) <|
      .written rfl rfl (rereads_text u.url) <|
      .written rfl rfl (rereads_int64_toInt u.rulesCount) <|
      .written rfl rfl (rereads_int64_toInt u.bytesWritten) <|
      .written rfl rfl (rereads_bool u.enabled) <|
      .written rfl rfl (rereads_kind u.kind) .nil) rfl

end FilterUpdate

namespace Snapshot

def Finite (i : Snapshot) : Prop :=
  ∀ m : Metric, (m.reading i).isFinite = true

variable {i : Snapshot}

theorem finite_iff : i.Finite ↔ i.cpuUsage.isFinite = true ∧ i.memoryUsage.isFinite = true ∧
    i.diskUsage.isFinite = true :=
  Metric.forall_iff

theorem rereads_texts (texts : List String) :
    Rereads (Json.list string) (.list (texts.map .text)) texts :=
  rereads_list (List.forall₂_map_left_iff.mpr (List.forall₂_same.mpr fun s _ => rereads_text s))

theorem rereadsIf_toValue
    (library : ∀ m : Metric, (m.reading i).isFinite = true → ReadsBack (m.reading i)) :
    RereadsIf i.Finite read i.toValue i := by
  refine RereadsIf.of_iff (rereadsIf_record
    (.always rfl rfl (rereads_text i.os) <|
      .always rfl rfl (rereads_text i.osVersion) <|
      .always rfl rfl (rereads_text i.arch) <|
      .always rfl rfl (rereads_text i.hostname) <|
      .always rfl rfl (rereads_uint64 i.numCpu) <|
      .always rfl rfl (rereads_text i.cpuModel) <|
      .written rfl rfl (rereadsIf_double (library .cpu)) <|
      .always rfl rfl (rereads_uint64 i.memoryTotal) <|
      .always rfl rfl (rereads_uint64 i.memoryUsed) <|
      .written rfl rfl (rereadsIf_double (library .memory)) <|
      .always rfl rfl (rereads_uint64 i.memoryFree) <|
      .always rfl rfl (rereads_text i.diskPath) <|
      .always rfl rfl (rereads_uint64 i.diskTotal) <|
      .always rfl rfl (rereads_uint64 i.diskUsed) <|
      .written rfl rfl (rereadsIf_double (library .disk)) <|
      .always rfl rfl (rereads_uint64 i.diskFree) <|
      .always rfl rfl (rereads_texts i.localIps) <|
      .always rfl rfl (rereads_text i.publicIp) <|
      .always rfl rfl (rereads_uint64 i.uptimeSeconds) .nil) rfl) ?_
  rw [finite_iff, and_true]

/-! ### Missing members -/

def fields (i : Snapshot) : List (String × Value) :=
  match i.toValue with
  | .object fields => fields
  | _ => []

theorem toValue_eq (i : Snapshot) : i.toValue = .object i.fields := rfl

theorem known_fields (i : Snapshot) : ∀ f ∈ i.fields, Known members f := by
  have text {name : String} {s : String} {put : Snapshot → String → Snapshot}
      (found : Member.find? members name = some (.of name .refused string put)) :
      Known members (name, .text s) := .of found (rereads_text s).settles
  have amount {name : String} {n : UInt64} {put : Snapshot → UInt64 → Snapshot}
      (found : Member.find? members name = some (.of name .refused uint64 put)) :
      Known members (name, .whole n.toNat) := .of found (rereads_uint64 n).settles
  have usage {name : String} {x : Float} {put : Snapshot → Float → Snapshot}
      (found : Member.find? members name = some (.of name .refused double put)) :
      Known members (name, .double x) := .of found (settles_double x)
  simp only [fields, toValue, List.forall_mem_cons]
  exact ⟨text rfl, text rfl, text rfl, text rfl, amount rfl, text rfl, usage rfl, amount rfl,
    amount rfl, usage rfl, amount rfl, text rfl, amount rfl, amount rfl, usage rfl, amount rfl,
    .of rfl (rereads_texts i.localIps).settles, text rfl, amount rfl, nofun⟩

theorem names_fields (i : Snapshot) : i.fields.map Prod.fst = members.map Member.name := rfl

theorem nodup_names : (members.map Member.name).Nodup := by decide

theorem required_members : ∀ m ∈ members, m.absence = .refused := by
  simp [members, Member.of]

theorem refuses_without_member {before after : List (String × Value)} {f : String × Value}
    (h : i.toValue = .object (before ++ f :: after)) :
    Refuses read (.object (before ++ after)) := by
  rw [toValue_eq, Value.object.injEq] at h
  have hknown := known_fields i
  have hdistinct : (i.fields.map Prod.fst).Nodup := by
    rw [names_fields]
    exact nodup_names
  rw [h] at hknown hdistinct
  exact refuses_without hknown hdistinct required_members

end Snapshot

/-- A filter update is read from its document as it was written, and a snapshot exactly if its
usages are finite. The document of a snapshot without one of its members is refused. -/
theorem updates_and_snapshots_reread :
    (∀ u : FilterUpdate, document FilterUpdate.read u.toValue.bytes = .ok u) ∧
      ∀ i : Snapshot,
        ((∀ m : Metric, (m.reading i).isFinite = true → ReadsBack (m.reading i)) →
          ∀ j, document Snapshot.read i.toValue.bytes = .ok j ↔ i.Finite ∧ j = i) ∧
        ∀ before f after, i.toValue = .object (before ++ f :: after) →
          ∃ e, document Snapshot.read (Value.object (before ++ after)).bytes = .error e := by
  refine ⟨fun u => u.rereads_toValue.document, fun i => ⟨fun library j => ?_, ?_⟩⟩
  · exact (Snapshot.rereadsIf_toValue library).document_iff
  · intro before f after h
    exact (Snapshot.refuses_without_member h).document

namespace Sample

/-- An update with numbers at both ends of 64 bits, of a kind that is not known. -/
def extreme : FilterUpdate :=
  ⟨18446744073709551615, "a\x22\x5cb", "https://lists.example/\x00☂", Int64.minValue,
    Int64.maxValue, true, .unknown⟩

/-- A snapshot with texts that need escapes, an empty one among the addresses, and the largest
amount. -/
def crowded : Snapshot :=
  ⟨"Linux", "6.1\n", "x86_64", "\x22host\x22", 64, "𝄞\x5c", 99.95, 18446744073709551615, 0, 0.1,
    18446744073709551615, "/", 1, 1, 100, 0, ["10.0.0.1", "", "fe80::1"], "", 86460⟩

/-- The same with a usage that is no number. -/
def unread : Snapshot :=
  { crowded with memoryUsage := 0 / 0 }

theorem finite_crowded : crowded.Finite := by
  intro m
  cases m <;> decide +kernel

theorem readsBack_crowded (m : Metric) : ReadsBack (m.reading crowded) := by
  cases m <;> decide +kernel

theorem readsBack_unread (m : Metric) (h : (m.reading unread).isFinite = true) :
    ReadsBack (m.reading unread) := by
  cases m with
  | cpu => decide +kernel
  | memory => exact absurd h (by decide +kernel)
  | disk => decide +kernel

/-- The first snapshot is read again, but not without its addresses; the second one is not read at
all. -/
theorem crowded_reread : document FilterUpdate.read extreme.toValue.bytes = .ok extreme ∧
    (∀ m : Metric, (m.reading crowded).isFinite = true ∧ ReadsBack (m.reading crowded)) ∧
    document Snapshot.read crowded.toValue.bytes = .ok crowded ∧
    (∃ e, document Snapshot.read (Value.object (crowded.fields.eraseIdx 16)).bytes = .error e) ∧
    ∀ i, document Snapshot.read unread.toValue.bytes ≠ .ok i := by
  obtain ⟨updates, snapshots⟩ := updates_and_snapshots_reread
  obtain ⟨hread, hwithout⟩ := snapshots crowded
  refine ⟨updates extreme, fun m => ⟨finite_crowded m, readsBack_crowded m⟩, ?_, ?_, fun i hi => ?_⟩
  · exact (hread (fun m _ => readsBack_crowded m) crowded).mpr ⟨finite_crowded, rfl⟩
  · exact hwithout (crowded.fields.take 16) _ (crowded.fields.drop 17) rfl
  · have hfinite := (((snapshots unread).1 readsBack_unread i).mp hi).1 .memory
    exact absurd hfinite (by decide +kernel)

end Sample

end HostAlert
