import HostAlert.Json.Record
import HostAlert.Proofs.Json.Scan
import HostAlert.Proofs.Text.Utf8

/-!
# Reading objects

A name without unpaired surrogates is read as its text (`text_spelled`). A record is read from an
object as its members say one after the other (`Reads`), where unknown ones may be any value
(`record_object`); an unpaired surrogate in a name is refused.
-/

namespace HostAlert.Json

/-! ### Names -/

def textOf (points : List Nat) : String :=
  String.ofList (points.map Char.ofNat)

theorem textOf_codes (s : String) : textOf (codes s) = s := by
  rw [textOf, codes, List.map_map]
  have hid : Char.ofNat ∘ Char.toNat = id := funext fun c => Char.ofNat_toNat c
  rw [hid, List.map_id, String.ofList_toList]

theorem codes_textOf {points : List Nat}
    (valid : ∀ n ∈ points, n < 0x110000 ∧ isSurrogate n = false) :
    codes (textOf points) = points := by
  rw [codes, textOf, String.toList_ofList, List.map_map]
  refine (List.map_congr_left fun n hn => ?_).trans (List.map_id points)
  obtain ⟨hlt, halone⟩ := valid n hn
  simp only [isSurrogate, isHighSurrogate, isLowSurrogate, Bool.or_eq_false_iff,
    Bool.and_eq_false_iff, decide_eq_false_iff_not] at halone
  have hvalid : n.isValidChar := by
    simp only [Nat.isValidChar]
    omega
  show (Char.ofNat n).toNat = n
  rw [Char.ofNat, dif_pos hvalid]
  rfl

theorem hexDigit?_lt {b : UInt8} {n : Nat} (h : hexDigit? b = some n) : n < 16 := by
  unfold hexDigit? at h
  simp only [UInt8.le_iff_toNat_le, UInt8.reduceToNat] at h
  repeat' split at h
  all_goals
    simp only [Option.some.injEq, reduceCtorEq] at h
    try omega

theorem hexUnit?_lt {h₁ h₂ h₃ h₄ : UInt8} {n : Nat} (h : hexUnit? h₁ h₂ h₃ h₄ = some n) :
    n < 0x10000 := by
  simp only [hexUnit?, Option.bind_eq_bind, Option.bind_eq_some_iff, Option.pure_def,
    Option.some.injEq] at h
  obtain ⟨a, ha, b, hb, c, hc, d, hd, rfl⟩ := h
  have ha := hexDigit?_lt ha
  have hb := hexDigit?_lt hb
  have hc := hexDigit?_lt hc
  have hd := hexDigit?_lt hd
  omega

theorem Spells.lt {points : List Nat} {s : Bytes} (h : Spells points s) :
    ∀ n ∈ points, n < 0x110000 := by
  induction h with
  | nil => nofun
  | plain c _ _ _ _ ih =>
    refine List.forall_mem_cons.mpr ⟨?_, ih⟩
    obtain hlt | ⟨-, hlt⟩ := Text.Utf8.code_range c
    · exact Nat.lt_trans hlt (by decide)
    · exact hlt
  | letter e b _ _ ih =>
    exact List.forall_mem_cons.mpr ⟨Nat.lt_trans b.toNat_lt (by decide), ih⟩
  | unit h₁ h₂ h₃ h₄ n hex _ _ ih =>
    exact List.forall_mem_cons.mpr ⟨Nat.lt_trans (hexUnit?_lt hex) (by decide), ih⟩
  | pair h₁ h₂ h₃ h₄ l₁ l₂ l₃ l₄ high low _ isHigh _ isLow _ ih =>
    refine List.forall_mem_cons.mpr ⟨?_, ih⟩
    simp only [isHighSurrogate, isLowSurrogate, Bool.and_eq_true, decide_eq_true_eq] at isHigh isLow
    rw [pairedCode]
    omega

theorem contentFrom_plain {s : Bytes} (h : ∀ b ∈ s, isPlain b = true) (done t : Bytes) :
    contentFrom done (s ++ t) = contentFrom (s.reverse ++ done) t := by
  induction s generalizing done with
  | nil => rfl
  | cons b s ih =>
    have hb := isPlain_iff.mp (h b List.mem_cons_self)
    have hquote : b ≠ 0x22 := fun heq => hb.1 (by rw [heq]; rfl)
    have hcontrol : ¬ b < 0x20 := by
      rw [UInt8.lt_iff_toNat_lt]
      exact Nat.not_lt.mpr hb.2.1
    have hslash : b ≠ 0x5C := fun heq => hb.2.2 (by rw [heq]; rfl)
    rw [List.cons_append, contentFrom.eq_def]
    simp only [hquote, hcontrol, hslash, ne_eq, not_false_eq_true, if_true, if_false]
    rw [ih (fun b hb => h b (List.mem_cons_of_mem _ hb)), List.reverse_cons, List.append_assoc,
      List.singleton_append]

theorem contentFrom_letter {e b : UInt8} (h : escaped? e = some b) (done s : Bytes) :
    contentFrom done (0x5C :: e :: s) = contentFrom (b :: done) s := by
  have he := escaped?_ne_u h
  rw [contentFrom.eq_def]
  simp [he, h]

theorem contentFrom_unit {h₁ h₂ h₃ h₄ : UInt8} {n : Nat} (h : hexUnit? h₁ h₂ h₃ h₄ = some n)
    (alone : isSurrogate n = false) (done s : Bytes) :
    contentFrom done (0x5C :: byte 'u' :: h₁ :: h₂ :: h₃ :: h₄ :: s) =
      contentFrom (pushChar done (Char.ofNat n)) s := by
  rw [isSurrogate, Bool.or_eq_false_iff] at alone
  rw [contentFrom.eq_def]
  simp [h, alone.1, alone.2]

theorem contentFrom_pair {h₁ h₂ h₃ h₄ l₁ l₂ l₃ l₄ : UInt8} {high low : Nat}
    (hex : hexUnit? h₁ h₂ h₃ h₄ = some high) (isHigh : isHighSurrogate high = true)
    (hex' : hexUnit? l₁ l₂ l₃ l₄ = some low) (isLow : isLowSurrogate low = true)
    (done s : Bytes) :
    contentFrom done (0x5C :: byte 'u' :: h₁ :: h₂ :: h₃ :: h₄ ::
      0x5C :: byte 'u' :: l₁ :: l₂ :: l₃ :: l₄ :: s) =
      contentFrom (pushChar done (Char.ofNat (pairedCode high low))) s := by
  have hnot : isLowSurrogate high = false := by
    simp only [isHighSurrogate, isLowSurrogate, Bool.and_eq_true, decide_eq_true_eq,
      Bool.and_eq_false_iff, decide_eq_false_iff_not] at isHigh ⊢
    omega
  have hchar : pairedChar high low = Char.ofNat (pairedCode high low) := rfl
  rw [contentFrom.eq_def]
  simp [hex, hnot, isHigh, hex', isLow, hchar]

theorem encode_escaped {e b : UInt8} (h : escaped? e = some b) :
    String.utf8EncodeChar (Char.ofNat b.toNat) = [b] := by
  unfold escaped? at h
  split at h
  · next hself =>
    cases h
    obtain rfl | rfl | rfl := hself <;> decide
  · repeat' split at h
    all_goals first | cases h; decide | cases h

/-- The content of a string is read as its characters. -/
theorem contentFrom_spelled {points : List Nat} {s : Bytes} (h : Spells points s)
    (paired : ∀ n ∈ points, isSurrogate n = false) (done rest : Bytes) :
    contentFrom done (s ++ 0x22 :: rest) =
      .ok (done.reverse ++ Text.Utf8.encode (points.map Char.ofNat), rest) := by
  induction h generalizing done with
  | nil =>
    rw [List.nil_append, contentFrom.eq_def]
    simp [Text.Utf8.encode]
  | plain c printable quote slash _ ih =>
    rw [List.append_assoc, contentFrom_plain fun b => isPlain_of_mem printable quote slash,
      ih fun n hn => paired n (List.mem_cons_of_mem _ hn)]
    simp [Text.Utf8.encode]
  | letter e b known _ ih =>
    simp only [List.cons_append]
    rw [contentFrom_letter known, ih fun n hn => paired n (List.mem_cons_of_mem _ hn)]
    simp [Text.Utf8.encode, encode_escaped known]
  | unit h₁ h₂ h₃ h₄ n hex _ _ ih =>
    simp only [List.cons_append]
    rw [contentFrom_unit hex (paired n List.mem_cons_self),
      ih fun n hn => paired n (List.mem_cons_of_mem _ hn)]
    simp [Text.Utf8.encode, pushChar]
  | pair h₁ h₂ h₃ h₄ l₁ l₂ l₃ l₄ high low hex isHigh hex' isLow _ ih =>
    simp only [List.cons_append]
    rw [contentFrom_pair hex isHigh hex' isLow,
      ih fun n hn => paired n (List.mem_cons_of_mem _ hn)]
    simp [Text.Utf8.encode, pushChar]

theorem text_spelled {points : List Nat} {s : Bytes} (h : Spells points s)
    (paired : ∀ n ∈ points, isSurrogate n = false) (rest : Bytes) :
    text (s ++ 0x22 :: rest) = .ok (textOf points, rest) := by
  rw [text, contentFrom_spelled h paired]
  simp [bind, Except.bind, textOf]

/-- White space behind a value ends a document. -/
theorem document_of_blank {α : Type} {read : Reader α} {s trail : Bytes} {a : α}
    (h : read s = .ok (a, trail)) (htrail : Blank trail) : document read s = .ok a := by
  have hend : skipSpace trail = [] := by
    have hskip := skipSpace_blank htrail []
    rwa [List.append_nil] at hskip
  rw [document, h]
  simp only [bind, Except.bind, hend, if_true]

/-! ### Members -/

variable {σ : Type} {members : List (Member σ)}

/-- What comes of a record and of the names seen by reading members of an object one after the
other. -/
inductive Reads (members : List (Member σ)) :
    List String → σ → List Item → List String → σ → Prop
  | nil {seen : List String} {record : σ} : Reads members seen record [] seen record
  | unknown {seen seen' : List String} {record record' : σ} {i : Item} {items : List Item}
      (missing : Member.find? members (textOf i.name) = none)
      (rest : Reads members seen record items seen' record') :
      Reads members seen record (i :: items) seen' record'
  | known {seen seen' : List String} {record next record' : σ} {i : Item} {items : List Item}
      {m : Member σ} (found : Member.find? members (textOf i.name) = some m)
      (new : seen.contains (textOf i.name) = false)
      (read : ∀ lead rest, Blank lead → Ends rest →
        m.read record (lead ++ (i.value ++ rest)) = .ok (next, rest))
      (rest : Reads members (textOf i.name :: seen) next items seen' record') :
      Reads members seen record (i :: items) seen' record'

/-- What stands before the name of a member: white space, after a comma unless it is the first. -/
inductive Separates : Bool → Bytes → Prop
  | first {lead : Bytes} (h : Blank lead) : Separates true lead
  | later {trail lead : Bytes} (htrail : Blank trail) (hlead : Blank lead) :
      Separates false (trail ++ byte ',' :: lead)

theorem nextName_separated {isFirst : Bool} {sep : Bytes} (h : Separates isFirst sep) (s : Bytes) :
    Member.nextName isFirst (sep ++ 0x22 :: s) = .ok (some s) := by
  cases h with
  | first h =>
    rw [Member.nextName, skipSpace_to h (by decide)]
    rfl
  | later htrail hlead =>
    rw [List.append_assoc, List.cons_append, Member.nextName, skipSpace_to htrail (by decide)]
    simp only [skipSpace_to hlead (show isSpace 0x22 = false by decide)]
    rfl

theorem nextName_end {trail : Bytes} (h : Blank trail) (isFirst : Bool) (s : Bytes) :
    Member.nextName isFirst (trail ++ 0x7D :: s) = .ok none := by
  rw [Member.nextName, skipSpace_to h (by decide)]
  rfl

theorem colon_spaced {gap : Bytes} (h : Blank gap) (s : Bytes) :
    colon (gap ++ byte ':' :: s) = .ok s := by
  rw [colon, skipSpace_to h (by decide)]
  rfl

theorem fromObject_end {trail : Bytes} (h : Blank trail) (fuel : Nat) (seen : List String)
    (isFirst : Bool) (record : σ) (rest : Bytes) :
    Member.fromObject members (fuel + 1) seen isFirst record (trail ++ 0x7D :: rest) =
      if Member.complete members seen then .ok (record, rest) else .error .mistyped := by
  rw [Member.fromObject, nextName_end h]
  dsimp only
  rw [Member.objectEnd, skipSpace_to h (by decide)]
  rfl

theorem fromObject_label {name : List Nat} (paired : ∀ n ∈ name, isSurrogate n = false)
    {label : Bytes} (hlabel : IsLabel .curly name label) {isFirst : Bool} {sep : Bytes}
    (hsep : Separates isFirst sep) (s : Bytes) (fuel : Nat) (seen : List String) (record : σ) :
    ∃ lead after, Blank lead ∧ colon after = .ok (lead ++ s) ∧
      (∀ e, Member.value members seen (textOf name) record after = .error e →
        Member.fromObject members (fuel + 1) seen isFirst record (sep ++ (label ++ s)) =
          .error e) ∧
      ∀ seen' next rest,
        Member.value members seen (textOf name) record after = .ok (seen', next, rest) →
        Member.fromObject members (fuel + 1) seen isFirst record (sep ++ (label ++ s)) =
          Member.fromObject members fuel seen' false next rest := by
  cases hlabel with
  | @curly _ content gap lead hspells hgap hlead =>
    have htext := text_spelled hspells paired (gap ++ byte ':' :: (lead ++ s))
    simp only [List.cons_append, List.append_assoc]
    rw [Member.fromObject, nextName_separated hsep]
    simp only [htext]
    refine ⟨lead, gap ++ byte ':' :: (lead ++ s), hlead, colon_spaced hgap _, ?_, ?_⟩
    · intro e he
      rw [he]
    · intro seen' next rest hvalue
      rw [hvalue]

/-- One member of an object is read as `Reads` says, and the rest after it. -/
theorem fromObject_member {seen seen' : List String} {record record' : σ} {i : Item}
    {items : List Item} (reads : Reads members seen record (i :: items) seen' record')
    (paired : ∀ n ∈ i.name, isSurrogate n = false) (value : IsValue i.value) {label : Bytes}
    (hlabel : IsLabel .curly i.name label) {isFirst : Bool} {sep : Bytes}
    (hsep : Separates isFirst sep) {rest : Bytes} (hrest : Ends rest) (fuel : Nat) :
    ∃ seen₁ next, Reads members seen₁ next items seen' record' ∧
      Member.fromObject members (fuel + 1) seen isFirst record
          (sep ++ (label ++ (i.value ++ rest))) =
        Member.fromObject members fuel seen₁ false next rest := by
  obtain ⟨lead, after, hlead, hcolon, -, hstep⟩ :=
    fromObject_label paired hlabel hsep (i.value ++ rest) fuel seen record
  cases reads with
  | unknown missing reads =>
    refine ⟨seen, record, reads, hstep _ _ _ ?_⟩
    have hskip := skip_value value hlead hrest
    rw [Member.value, missing]
    simp only [hcolon, bind, Except.bind, hskip]
  | known found new read reads =>
    refine ⟨_, _, reads, hstep _ _ _ ?_⟩
    have hread := read lead rest hlead hrest
    rw [Member.value, found]
    simp only [new, hcolon, bind, Except.bind, hread, Bool.false_eq_true, if_false]

theorem fromObject_broken {name : List Nat} {label s : Bytes} {e : Fault}
    (missing : Member.find? members (textOf name) = none)
    (paired : ∀ n ∈ name, isSurrogate n = false) (hlabel : IsLabel .curly name label)
    {isFirst : Bool} {sep : Bytes} (hsep : Separates isFirst sep)
    (breaks : ∀ lead, Blank lead → skip (lead ++ s) = .error e) (fuel : Nat) (seen : List String)
    (record : σ) :
    Member.fromObject members (fuel + 1) seen isFirst record (sep ++ (label ++ s)) = .error e := by
  obtain ⟨lead, after, hlead, hcolon, herror, -⟩ :=
    fromObject_label paired hlabel hsep s fuel seen record
  apply herror
  rw [Member.value, missing]
  simp only [hcolon, bind, Except.bind, breaks lead hlead]

theorem fromObject_items {items : List Item} {s : Bytes} (h : IsItems .curly items s)
    (paired : ∀ i ∈ items, ∀ n ∈ i.name, isSurrogate n = false) {seen seen' : List String}
    {record record' : σ} (reads : Reads members seen record items seen' record') {isFirst : Bool}
    {sep : Bytes} (hsep : Separates isFirst sep) {fuel : Nat} (enough : items.length < fuel)
    (rest : Bytes) :
    Member.fromObject members fuel seen isFirst record (sep ++ (s ++ 0x7D :: rest)) =
      if Member.complete members seen' then .ok (record', rest) else .error .mistyped := by
  induction items generalizing s seen record isFirst sep fuel with
  | nil => cases h
  | cons i items ih =>
    obtain ⟨fuel, rfl⟩ : ∃ k, fuel = k + 1 := ⟨fuel - 1, by omega⟩
    have hfuel : items.length < fuel := Nat.lt_of_succ_lt_succ enough
    have hpaired := paired i List.mem_cons_self
    cases h with
    | @last _ name label value trail hlabel hvalue htrail =>
      have hends : Ends (trail ++ 0x7D :: rest) := ends_of_blank htrail (ends_closing .curly rest)
      obtain ⟨seen₁, next, reads₁, hstep⟩ :=
        fromObject_member reads hpaired hvalue hlabel hsep hends fuel
      obtain ⟨k, rfl⟩ : ∃ k, fuel = k + 1 := ⟨fuel - 1, by omega⟩
      simp only [List.append_assoc]
      rw [hstep]
      cases reads₁
      exact fromObject_end htrail k seen' false record' rest
    | @more _ name label value trail lead s items hlabel hvalue htrail hlead more =>
      have hends : Ends (trail ++ byte ',' :: (lead ++ (s ++ 0x7D :: rest))) :=
        ends_of_blank htrail (ends_comma _)
      obtain ⟨seen₁, next, reads₁, hstep⟩ :=
        fromObject_member reads hpaired hvalue hlabel hsep hends fuel
      simp only [List.append_assoc, List.cons_append]
      rw [hstep]
      have hnext := ih more (fun i hi => paired i (List.mem_cons_of_mem _ hi)) reads₁
        (.later htrail hlead) hfuel
      rw [List.append_assoc, List.cons_append] at hnext
      exact hnext

theorem IsItems.length_le {bracket : Bracket} {items : List Item} {s : Bytes}
    (h : IsItems bracket items s) : items.length ≤ s.length := by
  induction items generalizing s with
  | nil => exact Nat.zero_le _
  | cons i items ih =>
    cases h with
    | last hlabel hvalue =>
      obtain ⟨b, t, rfl, -⟩ := hvalue.head
      simp only [List.length_append, List.length_cons, List.length_nil]
      omega
    | more hlabel hvalue _ _ rest =>
      have hlen := ih rest
      simp only [List.length_append, List.length_cons]
      omega

theorem IsItems.spelled {items : List Item} {s : Bytes} (h : IsItems .curly items s) :
    ∀ i ∈ items, ∃ content, Spells i.name content := by
  induction items generalizing s with
  | nil => nofun
  | cons i items ih =>
    cases h with
    | last hlabel =>
      cases hlabel with
      | @curly _ content _ _ hspells => exact List.forall_mem_singleton.mpr ⟨content, hspells⟩
    | more hlabel _ _ _ rest =>
      cases hlabel with
      | @curly _ content _ _ hspells =>
        exact List.forall_mem_cons.mpr ⟨⟨content, hspells⟩, ih rest⟩

/-- A member of an object has the name of its text. -/
theorem IsObject.textOf_eq_iff {items : List Item} {s : Bytes} (h : IsObject items s) {i : Item}
    (hi : i ∈ items) (paired : ∀ n ∈ i.name, isSurrogate n = false) (name : String) :
    textOf i.name = name ↔ i.name = codes name := by
  constructor
  · rintro rfl
    cases h with
    | empty => cases hi
    | items _ h =>
      obtain ⟨content, hspells⟩ := h.spelled i hi
      exact (codes_textOf fun n hn => ⟨hspells.lt n hn, paired n hn⟩).symm
  · intro heq
    rw [heq, textOf_codes]

theorem record_curly (members : List (Member σ)) (start : σ) {lead : Bytes} (h : Blank lead)
    (s : Bytes) : Json.record members start (lead ++ 0x7B :: s) =
      Member.fromObject members (s.length + 1) [] true start s := by
  rw [Json.record, skipSpace_to h (by decide)]
  rfl

/-- What comes of an object whose members are read one after the other. -/
theorem record_of_reads {items : List Item} {s : Bytes} (h : IsObject items s)
    (paired : ∀ i ∈ items, ∀ n ∈ i.name, isSurrogate n = false) {start record : σ}
    {seen : List String} (reads : Reads members [] start items seen record) {lead : Bytes}
    (hlead : Blank lead) (rest : Bytes) : Json.record members start (lead ++ (s ++ rest)) =
      if Member.complete members seen then .ok (record, rest) else .error .mistyped := by
  cases h with
  | @empty blank h =>
    cases reads
    simp only [List.cons_append, List.append_assoc]
    rw [record_curly members start hlead]
    exact fromObject_end h _ [] true start rest
  | @items before s _ hbefore h =>
    have hlen := h.length_le
    simp only [List.cons_append, List.append_assoc]
    rw [record_curly members start hlead]
    refine fromObject_items h paired reads (.first hbefore) ?_ rest
    simp only [List.length_append, List.length_cons]
    omega

/-- A record is read from an object as its members say one after the other. -/
theorem record_object {items : List Item} {s : Bytes} (h : IsObject items s)
    (paired : ∀ i ∈ items, ∀ n ∈ i.name, isSurrogate n = false) {start record : σ}
    {seen : List String} (reads : Reads members [] start items seen record)
    (complete : Member.complete members seen = true) {lead : Bytes} (hlead : Blank lead)
    (rest : Bytes) : Json.record members start (lead ++ (s ++ rest)) = .ok (record, rest) := by
  rw [record_of_reads h paired reads hlead, if_pos complete]

end HostAlert.Json
