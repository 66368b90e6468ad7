import HostAlert.Proofs.Decimal.Finite
import HostAlert.Proofs.Json.Rereading

/-!
# What is refused

A reader `Refuses` a value if it gives a fault whatever white space stands before the text of the
value and whatever ends it: a reader of doubles refuses a double that is no finite number, and a
reader of whole numbers one that is out of its range. A record is refused as soon as one member is,
after others that are read (`record_stops`). `RereadsIf` puts both outcomes together: a value is
reread under a condition and refused otherwise, and a record is if its members are
(`rereadsIf_record`). Whatever becomes of the other members, a record is refused if a required one
is missing (`refuses_lacking`).
-/

namespace HostAlert.Json

/-- The text of the value is refused. -/
def Refuses {α : Type} (read : Reader α) (v : Value) : Prop :=
  ∀ lead rest, Blank lead → Ends rest → ∃ e, read (lead ++ (v.bytes ++ rest)) = .error e

/-- A refused value by itself is no document. -/
theorem Refuses.document {α : Type} {read : Reader α} {v : Value} (h : Refuses read v) :
    ∃ e, Json.document read v.bytes = .error e := by
  obtain ⟨e, he⟩ := h [] [] .nil ends_nil
  rw [List.nil_append, List.append_nil] at he
  exact ⟨e, by rw [Json.document, he]; rfl⟩

/-! ### Numbers -/

theorem refuses_null {α : Type} {convert : Number → Option α} :
    Refuses (numberOf convert) .null := by
  intro lead rest hlead _
  have hletter : ¬ (byte 'n' = byte '-' ∨ isDigit (byte 'n') = true) := by decide
  show ∃ e, numberOf convert (lead ++ byte 'n' :: (utf8 "ull" ++ rest)) = .error e
  rw [numberOf, skipSpace_to hlead (by decide)]
  exact ⟨_, if_neg hletter⟩

theorem refuses_double {x : Float} (h : x.isFinite = false) : Refuses double (.double x) := by
  intro lead rest hlead hrest
  rw [bytes_double_none (Decimal.ofFloat?_eq_none h)]
  exact refuses_null lead rest hlead hrest

theorem numberOf_refused {α : Type} {convert : Number → Option α} {s lead rest : Bytes}
    (h : IsNumber s) (hlead : Blank lead)
    (converts : ∀ n rest', number (s ++ rest) = .ok (n, rest') → convert n = none) :
    ∃ e, numberOf convert (lead ++ (s ++ rest)) = .error e := by
  cases hread : numberOf convert (lead ++ (s ++ rest)) with
  | error e => exact ⟨e, rfl⟩
  | ok read =>
    obtain ⟨n, hn, hconvert⟩ := (numberOf_eq_ok_iff h hlead).mp hread
    rw [converts n _ hn] at hconvert
    cases hconvert

theorem refuses_whole {α : Type} {convert : Number → Option α} {n : Int}
    (low : -0x8000000000000000 ≤ n) (high : n ≤ 0xFFFFFFFFFFFFFFFF)
    (converts : convert (.whole n) = none) : Refuses (numberOf convert) (.whole n) := by
  intro lead rest hlead hrest
  have hnumber := number_append (isNumber_wholeText n) (number_wholeText low high) hrest
  refine numberOf_refused (isNumber_wholeText n) hlead fun m rest' hm => ?_
  cases hnumber.symm.trans hm
  exact converts

theorem refuses_int64 {n : Int} (low : 0x7FFFFFFFFFFFFFFF < n) (high : n ≤ 0xFFFFFFFFFFFFFFFF) :
    Refuses int64 (.whole n) := by
  have hout : ¬ (-0x8000000000000000 ≤ n ∧ n ≤ 0x7FFFFFFFFFFFFFFF) := by omega
  have hwhole : Refuses (wholeIn (-0x8000000000000000) 0x7FFFFFFFFFFFFFFF) (.whole n) :=
    refuses_whole (by omega) high (if_neg hout)
  intro lead rest hlead hrest
  obtain ⟨e, he⟩ := hwhole lead rest hlead hrest
  exact ⟨e, by rw [int64, he]; rfl⟩

/-! ### Records -/

section

variable {σ : Type} {members : List (Member σ)}

/-- One member of an object is refused, after others that are read. -/
inductive Stops (members : List (Member σ)) : List String → σ → List Item → Prop
  | here {seen : List String} {record : σ} {i : Item} {items : List Item} {m : Member σ}
      (found : Member.find? members (textOf i.name) = some m)
      (new : seen.contains (textOf i.name) = false)
      (refused : ∀ lead rest, Blank lead → Ends rest →
        ∃ e, m.read record (lead ++ (i.value ++ rest)) = .error e) :
      Stops members seen record (i :: items)
  | later {seen seen' : List String} {record next : σ} {i : Item} {items : List Item}
      (reads : Reads members seen record [i] seen' next) (rest : Stops members seen' next items) :
      Stops members seen record (i :: items)

theorem Refuses.member {α : Type} {read : Reader α} {v : Value} (h : Refuses read v)
    (name : String) (absence : Absence) (put : σ → α → σ) (record : σ) :
    Refuses ((Member.of name absence read put).read record) v := by
  intro lead rest hlead hrest
  obtain ⟨e, he⟩ := h lead rest hlead hrest
  refine ⟨e, ?_⟩
  show (read (lead ++ (v.bytes ++ rest))).map _ = _
  rw [he]
  rfl

theorem fromObject_refused {m : Member σ} {i : Item} {seen : List String} {record : σ}
    (found : Member.find? members (textOf i.name) = some m)
    (new : seen.contains (textOf i.name) = false)
    (refused : ∀ lead rest, Blank lead → Ends rest →
      ∃ e, m.read record (lead ++ (i.value ++ rest)) = .error e)
    (paired : ∀ n ∈ i.name, isSurrogate n = false) {label : Bytes}
    (hlabel : IsLabel .curly i.name label) {isFirst : Bool} {sep : Bytes}
    (hsep : Separates isFirst sep) {rest : Bytes} (hrest : Ends rest) (fuel : Nat) :
    ∃ e, Member.fromObject members (fuel + 1) seen isFirst record
      (sep ++ (label ++ (i.value ++ rest))) = .error e := by
  obtain ⟨lead, after, hlead, hcolon, herror, -⟩ :=
    fromObject_label paired hlabel hsep (i.value ++ rest) fuel seen record
  obtain ⟨e, he⟩ := refused lead rest hlead hrest
  refine ⟨e, herror e ?_⟩
  rw [Member.value, found]
  simp only [new, hcolon, bind, Except.bind, he, Bool.false_eq_true, if_false]

theorem fromObject_stops {items : List Item} {seen : List String} {record : σ}
    (stops : Stops members seen record items) {s : Bytes} (h : IsItems .curly items s)
    (paired : ∀ i ∈ items, ∀ n ∈ i.name, isSurrogate n = false) {isFirst : Bool} {sep : Bytes}
    (hsep : Separates isFirst sep) (fuel : Nat) (rest : Bytes) :
    ∃ e, Member.fromObject members fuel seen isFirst record (sep ++ (s ++ 0x7D :: rest)) =
      .error e := by
  induction stops generalizing s isFirst sep fuel with
  | here found new refused =>
    cases fuel with
    | zero => exact ⟨_, rfl⟩
    | succ fuel =>
      have hpaired := paired _ List.mem_cons_self
      cases h with
      | last hlabel _ htrail =>
        simp only [List.append_assoc]
        exact fromObject_refused found new refused hpaired hlabel hsep
          (ends_of_blank htrail (ends_closing .curly rest)) fuel
      | more hlabel _ htrail =>
        simp only [List.append_assoc, List.cons_append]
        exact fromObject_refused found new refused hpaired hlabel hsep
          (ends_of_blank htrail (ends_comma _)) fuel
  | later reads stops ih =>
    cases fuel with
    | zero => exact ⟨_, rfl⟩
    | succ fuel =>
      cases h with
      | last => cases stops
      | @more _ name label value trail lead s items hlabel hvalue htrail hlead more =>
        have hends : Ends (trail ++ byte ',' :: (lead ++ (s ++ 0x7D :: rest))) :=
          ends_of_blank htrail (ends_comma _)
        obtain ⟨seen₁, next, hnone, hstep⟩ :=
          fromObject_member reads (paired _ List.mem_cons_self) hvalue hlabel hsep hends fuel
        cases hnone
        simp only [List.append_assoc, List.cons_append]
        rw [hstep]
        have hnext := ih more (fun i hi => paired i (List.mem_cons_of_mem _ hi))
          (.later htrail hlead) fuel
        rw [List.append_assoc, List.cons_append] at hnext
        exact hnext

/-- A record is refused if one member of the object is. -/
theorem record_stops {items : List Item} {s : Bytes} (h : IsObject items s)
    (paired : ∀ i ∈ items, ∀ n ∈ i.name, isSurrogate n = false) {start : σ}
    (stops : Stops members [] start items) {lead : Bytes} (hlead : Blank lead) (rest : Bytes) :
    ∃ e, Json.record members start (lead ++ (s ++ rest)) = .error e := by
  cases h with
  | empty => cases stops
  | @items before s _ hbefore h =>
    simp only [List.cons_append, List.append_assoc]
    rw [record_curly members start hlead]
    exact fromObject_stops stops h paired (.first hbefore) _ rest

end

/-! ### Both outcomes -/

/-- The text of the value is read as `a` if `p` holds, and refused otherwise. -/
structure RereadsIf {α : Type} (p : Prop) (read : Reader α) (v : Value) (a : α) : Prop where
  rereads : p → Rereads read v a
  refuses : ¬ p → Refuses read v

theorem RereadsIf.of_iff {α : Type} {p q : Prop} {read : Reader α} {v : Value} {a : α}
    (h : RereadsIf p read v a) (hiff : p ↔ q) : RereadsIf q read v a :=
  ⟨fun hq => h.rereads (hiff.mpr hq), fun hq => h.refuses fun hp => hq (hiff.mp hp)⟩

theorem rereadsIf_double {x : Float} (library : x.isFinite = true → ReadsBack x) :
    RereadsIf (x.isFinite = true) double (.double x) x :=
  ⟨fun h => rereads_double (library h), fun h => refuses_double ((Bool.not_eq_true _).mp h)⟩

section

variable {σ : Type} {members : List (Member σ)}

/-- The members of an object are read to the end if `p` holds, and one is refused otherwise. -/
structure ReadsIf (p : Prop) (members : List (Member σ)) (seen : List String) (record : σ)
    (items : List Item) (seen' : List String) (record' : σ) : Prop where
  reads : p → Reads members seen record items seen' record'
  stops : ¬ p → Stops members seen record items

theorem ReadsIf.nil {seen : List String} {record : σ} :
    ReadsIf True members seen record [] seen record :=
  ⟨fun _ => .nil, fun h => (h trivial).elim⟩

theorem ReadsIf.written {α : Type} {p q : Prop} {seen seen' : List String} {record record' : σ}
    {items : List Item} {name : String} {absence : Absence} {read : Reader α} {put : σ → α → σ}
    {v : Value} {a : α}
    (found : Member.find? members name = some (.of name absence read put))
    (new : seen.contains name = false) (value : RereadsIf p read v a)
    (rest : ReadsIf q members (name :: seen) (put record a) items seen' record') :
    ReadsIf (p ∧ q) members seen record (⟨codes name, v.bytes⟩ :: items) seen' record' := by
  refine ⟨fun ⟨hp, hq⟩ => .written found new (value.rereads hp) (rest.reads hq), fun h => ?_⟩
  by_cases hp : p
  · exact .later (.written found new (value.rereads hp) .nil)
      (rest.stops fun hq => h ⟨hp, hq⟩)
  · have htext : textOf (codes name) = name := textOf_codes name
    rw [← htext] at found new
    exact .here found new ((value.refuses hp).member _ absence put record)

theorem ReadsIf.always {α : Type} {p : Prop} {seen seen' : List String} {record record' : σ}
    {items : List Item} {name : String} {absence : Absence} {read : Reader α} {put : σ → α → σ}
    {v : Value} {a : α}
    (found : Member.find? members name = some (.of name absence read put))
    (new : seen.contains name = false) (rereads : Rereads read v a)
    (rest : ReadsIf p members (name :: seen) (put record a) items seen' record') :
    ReadsIf p members seen record (⟨codes name, v.bytes⟩ :: items) seen' record' := by
  have hvalue : RereadsIf True read v a := ⟨fun _ => rereads, fun h => (h trivial).elim⟩
  have hwritten := ReadsIf.written found new hvalue rest
  rwa [true_and] at hwritten

theorem rereadsIf_record {p : Prop} {start record : σ} {fields : List (String × Value)}
    {seen : List String}
    (reads : ReadsIf p members [] start (Value.memberItems fields) seen record)
    (complete : Member.complete members seen = true) :
    RereadsIf p (Json.record members start) (.object fields) record := by
  refine ⟨fun hp => rereads_record (reads.reads hp) complete, fun hp => ?_⟩
  intro lead rest hlead _
  exact record_stops (Value.isObject_bytes fields) (Value.paired_memberItems fields)
    (reads.stops hp) hlead rest

end

theorem RereadsIf.document_iff {α : Type} {p : Prop} {read : Reader α} {v : Value} {a b : α}
    (h : RereadsIf p read v a) : document read v.bytes = .ok b ↔ p ∧ b = a := by
  by_cases hp : p
  · rw [(h.rereads hp).document]
    simp [hp, eq_comm]
  · obtain ⟨e, he⟩ := (h.refuses hp).document
    rw [he]
    simp [hp]

/-! ### Missing members -/

/-- The value is read as the same thing whatever stands around its text, or refused. -/
def Settles {α : Type} (read : Reader α) (v : Value) : Prop :=
  (∃ a, Rereads read v a) ∨ Refuses read v

theorem Rereads.settles {α : Type} {read : Reader α} {v : Value} {a : α} (h : Rereads read v a) :
    Settles read v :=
  .inl ⟨a, h⟩

/-- A number is read as the same number whatever ends it, and the number alone decides whether it is
converted. -/
theorem settles_number {α : Type} {convert : Number → Option α} {v : Value}
    (h : IsNumber v.bytes) : Settles (numberOf convert) v := by
  obtain ⟨value, hvalue⟩ := exists_number h
  cases hconverted : value.bind convert with
  | none =>
    refine .inr fun lead rest hlead hrest => numberOf_refused h hlead fun n rest' hn => ?_
    rw [hvalue hrest] at hn
    cases value with
    | none => cases hn
    | some n' =>
      cases hn
      exact hconverted
  | some a =>
    obtain ⟨n, rfl, hconvert⟩ := Option.bind_eq_some_iff.mp hconverted
    exact .inl ⟨a, fun lead rest hlead hrest =>
      (numberOf_eq_ok_iff h hlead).mpr ⟨n, hvalue hrest, hconvert⟩⟩

theorem settles_double (x : Float) : Settles double (.double x) := by
  cases hparts : Decimal.Parts.ofFloat? x with
  | none =>
    refine .inr fun lead rest hlead hrest => ?_
    rw [bytes_double_none hparts]
    exact refuses_null lead rest hlead hrest
  | some p => exact settles_number (isNumber_doubleText hparts)

section

variable {σ : Type} {members : List (Member σ)}

/-- The written member is known, and its value settles whatever the record. -/
def Known (members : List (Member σ)) (f : String × Value) : Prop :=
  ∃ m, Member.find? members f.1 = some m ∧ ∀ record, Settles (m.read record) f.2

theorem Known.of {α : Type} {name : String} {absence : Absence} {read : Reader α}
    {put : σ → α → σ} {v : Value}
    (found : Member.find? members name = some (.of name absence read put))
    (settles : Settles read v) : Known members (name, v) := by
  refine ⟨_, found, fun record => ?_⟩
  obtain ⟨a, hreads⟩ | hrefuses := settles
  · exact .inl ⟨_, hreads.member name absence put record⟩
  · exact .inr (hrefuses.member name absence put record)

/-- The members of an object are read to the end, and then no others were seen, or one is
refused. -/
theorem reads_or_stops {fields : List (String × Value)} (known : ∀ f ∈ fields, Known members f)
    (distinct : (fields.map Prod.fst).Nodup) {seen : List String}
    (new : ∀ f ∈ fields, f.1 ∉ seen) (record : σ) :
    Stops members seen record (Value.memberItems fields) ∨
      ∃ seen' record', Reads members seen record (Value.memberItems fields) seen' record' ∧
        ∀ name ∈ seen', name ∈ seen ∨ name ∈ fields.map Prod.fst := by
  induction fields generalizing seen record with
  | nil => exact .inr ⟨seen, record, .nil, fun _ h => .inl h⟩
  | cons f fields ih =>
    obtain ⟨⟨m, hfound, hsettles⟩, hknown⟩ := List.forall_mem_cons.mp known
    obtain ⟨hnew, hlater⟩ := List.forall_mem_cons.mp new
    obtain ⟨hfirst, hdistinct⟩ := List.nodup_cons.mp distinct
    have hname : textOf (codes f.1) = f.1 := textOf_codes f.1
    have hunseen : seen.contains f.1 = false := by
      rw [List.contains_eq_mem]
      exact decide_eq_false hnew
    rw [← hname] at hfound hunseen
    obtain ⟨next, hread⟩ | hrefuses := hsettles record
    · have hnext {seen' : List String} {record' : σ} {items : List Item}
          (reads : Reads members (f.1 :: seen) next items seen' record') :
          Reads members seen record (⟨codes f.1, f.2.bytes⟩ :: items) seen' record' := by
        rw [← hname] at reads
        exact .known hfound hunseen hread reads
      have hunseen' : ∀ g ∈ fields, g.1 ∉ f.1 :: seen := by
        intro g hg hmem
        obtain heq | hmem := List.mem_cons.mp hmem
        · exact hfirst (heq ▸ List.mem_map_of_mem hg)
        · exact hlater g hg hmem
      obtain hstops | ⟨seen', record', hreads, hseen⟩ := ih hknown hdistinct hunseen' next
      · exact .inl (.later (hnext .nil) hstops)
      · refine .inr ⟨seen', record', hnext hreads, fun name hmem => ?_⟩
        obtain hmem | hmem := hseen name hmem
        · obtain rfl | hmem := List.mem_cons.mp hmem
          · exact .inr List.mem_cons_self
          · exact .inl hmem
        · exact .inr (List.mem_cons_of_mem _ hmem)
    · exact .inl (.here hfound hunseen hrefuses)

theorem refuses_lacking {start : σ} {fields : List (String × Value)}
    (known : ∀ f ∈ fields, Known members f) (distinct : (fields.map Prod.fst).Nodup)
    {m : Member σ} (hm : m ∈ members) (required : m.absence = .refused)
    (missing : m.name ∉ fields.map Prod.fst) :
    Refuses (Json.record members start) (.object fields) := by
  intro lead rest hlead _
  have hobject := Value.isObject_bytes fields
  have hpaired := Value.paired_memberItems fields
  obtain hstops | ⟨seen, record, hreads, hseen⟩ :=
    reads_or_stops known distinct (fun _ _ => List.not_mem_nil) start
  · exact record_stops hobject hpaired hstops hlead rest
  · have hunseen : m.name ∉ seen := by
      intro hmem
      obtain hmem | hmem := hseen m.name hmem
      · cases hmem
      · exact missing hmem
    have hincomplete : Member.complete members seen = false := by
      refine List.all_eq_false.mpr ⟨m, hm, ?_⟩
      rw [required, List.contains_eq_mem, decide_eq_false hunseen]
      decide
    refine ⟨.mistyped, ?_⟩
    rw [record_of_reads hobject hpaired hreads hlead, hincomplete]
    rfl

/-- Where every member is required, a record that lacks one of those written is refused. -/
theorem refuses_without {start : σ} {before after : List (String × Value)} {f : String × Value}
    (known : ∀ g ∈ before ++ f :: after, Known members g)
    (distinct : ((before ++ f :: after).map Prod.fst).Nodup)
    (required : ∀ m ∈ members, m.absence = .refused) :
    Refuses (Json.record members start) (.object (before ++ after)) := by
  have hsub : (before ++ after).Sublist (before ++ f :: after) :=
    (List.sublist_cons_self f after).append_left before
  obtain ⟨m, hfound, -⟩ := known f (List.mem_append_right _ List.mem_cons_self)
  have hm : m ∈ members := List.mem_of_find?_eq_some hfound
  have hname : m.name = f.1 := beq_iff_eq.mp (List.find?_some hfound :)
  refine refuses_lacking (fun g hg => known g (hsub.subset hg)) (distinct.sublist (hsub.map _)) hm
    (required m hm) ?_
  rw [hname]
  rw [List.map_append, List.map_cons] at distinct
  rw [List.map_append]
  exact (List.nodup_middle.mp distinct).notMem

end

end HostAlert.Json
