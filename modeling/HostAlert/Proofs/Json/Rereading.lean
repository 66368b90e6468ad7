import Mathlib.Data.List.Induction
import HostAlert.Json.Record
import HostAlert.Proofs.Json.Object
import HostAlert.Proofs.Json.Written

/-!
# Reading what was written

A reader `Rereads` a value if it gives back the same thing whatever white space stands before the
text of the value and whatever ends it. Truth values, texts, names of variants and whole numbers of
64 bits are always reread, a double if its text alone is (`ReadsBack`), a list if its items are
(`rereads_list`), and a record if its members are (`rereads_record`).
-/

namespace HostAlert.Json

open Text (decimal)
open Text.Utf8 (encode encode_append encode_cons)

/-- The text of the value is read as `a`. -/
def Rereads {α : Type} (read : Reader α) (v : Value) (a : α) : Prop :=
  ∀ lead rest, Blank lead → Ends rest → read (lead ++ (v.bytes ++ rest)) = .ok (a, rest)

theorem ends_nil : Ends [] := nofun

theorem Rereads.alone {α : Type} {read : Reader α} {v : Value} {a : α} (h : Rereads read v a) :
    read v.bytes = .ok (a, []) := by
  have hread := h [] [] .nil ends_nil
  rwa [List.nil_append, List.append_nil] at hread

theorem Rereads.document {α : Type} {read : Reader α} {v : Value} {a : α} (h : Rereads read v a) :
    Json.document read v.bytes = .ok a :=
  document_of_blank h.alone .nil

/-! ### Words and texts -/

theorem rereads_bool (b : Bool) : Rereads bool (.bool b) b := by
  intro lead rest hlead _
  cases b with
  | true =>
    show bool (lead ++ byte 't' :: (utf8 "rue" ++ rest)) = .ok (true, rest)
    rw [bool, skipSpace_to hlead (by decide)]
    simp only [if_true, word_append]
    rfl
  | false =>
    have hne : byte 'f' ≠ byte 't' := by decide
    show bool (lead ++ byte 'f' :: (utf8 "alse" ++ rest)) = .ok (false, rest)
    rw [bool, skipSpace_to hlead (by decide)]
    simp only [hne, if_true, if_false, word_append]
    rfl

theorem paired_codes (s : String) : ∀ n ∈ codes s, isSurrogate n = false := by
  intro n hn
  obtain ⟨c, -, rfl⟩ := List.mem_map.mp hn
  exact isSurrogate_toNat c

theorem Value.paired_memberItems (members : List (String × Value)) :
    ∀ i ∈ memberItems members, ∀ n ∈ i.name, isSurrogate n = false := by
  intro i hi
  obtain ⟨m, -, rfl⟩ := List.mem_map.mp hi
  exact paired_codes m.1

theorem rereads_text (s : String) : Rereads string (.text s) s := by
  intro lead rest hlead _
  have htext := text_spelled (spells_quoted s) (paired_codes s) rest
  have hbytes : (Value.text s).bytes = _ := encode_quoted s
  rw [hbytes, List.cons_append, List.append_assoc, List.singleton_append, string,
    skipSpace_to hlead (by decide)]
  simp only [if_true, htext, textOf_codes]

theorem rereads_variant {α : Type} {convert : String → Option α} {name : String} {a : α}
    (h : convert name = some a) : Rereads (variant convert) (.text name) a := by
  intro lead rest hlead hrest
  have hname := rereads_text name [] rest .nil hrest
  have hbytes : (Value.text name).bytes = _ := encode_quoted name
  rw [hbytes, List.nil_append, List.cons_append] at hname
  rw [hbytes, List.cons_append, variant, skipSpace_to hlead (by decide)]
  simp only [if_true, stringOf, hname, bind, Except.bind, h]

/-! ### Digits -/

theorem digitsOf_encode {s : List Char} (h : ∀ c ∈ s, c.isDigit = true) :
    digitsOf (encode s) = s.map fun c => c.toNat - '0'.toNat := by
  have hdigits : ∀ b ∈ s.map byte, isDigit b = true := by
    intro b hb
    obtain ⟨c, hc, rfl⟩ := List.mem_map.mp hb
    exact isDigit_byte (h c hc)
  rw [digitsOf, encode_digits h, List.takeWhile_eq_self_iff.mpr hdigits, List.map_map]
  refine List.map_congr_left fun c hc => ?_
  obtain ⟨-, hhigh⟩ := isDigit_range (h c hc)
  show (byte c).toNat - 0x30 = c.toNat - 0x30
  rw [toNat_byte (by omega)]

theorem natOfDigits_decimal (n : Nat) : natOfDigits (digitsOf (encode (decimal n))) = n := by
  have hvalue := @Nat.ofDigitChars_toDigits 10 n (by decide) (by decide)
  rw [Nat.ofDigitChars_eq_foldl] at hvalue
  rw [digitsOf_encode fun _ => Text.isDigit_of_mem_decimal, natOfDigits, List.foldl_map, decimal]
  simpa only [Nat.mul_comm] using hvalue

/-- Digits that stand for a number of 64 bits are all kept. -/
theorem wholePart_of_lt {digits : List Nat} (h : natOfDigits digits < UInt64.size) :
    Numeral.wholePart digits = (natOfDigits digits, 0) := by
  induction digits using List.reverseRecOn with
  | nil => rfl
  | append_singleton digits d ih =>
    have hlast : natOfDigits (digits ++ [d]) = natOfDigits digits * 10 + d :=
      List.foldl_concat _ _ _ _
    rw [hlast] at h
    have hfront := ih (by omega)
    have hfits : fits (natOfDigits digits) d = true := decide_eq_true h
    unfold Numeral.wholePart at hfront ⊢
    rw [List.foldl_concat, hfront, hlast]
    simp only [hfits, and_self, if_true]

/-! ### Numbers -/

theorem fraction_nil : fraction [] = .ok (none, []) := rfl

theorem power_nil : power [] = .ok (none, []) := rfl

theorem numeral_wholeText (n : Int) : numeral (encode (Value.wholeText n)) =
    .ok (⟨decide (n < 0), digitsOf (encode (decimal n.natAbs)), none, none⟩, []) := by
  have hdigits := leadingDigits_append (isWhole_decimal n.natAbs) (show NoDigit [] from nofun)
  rw [List.append_nil] at hdigits
  rw [encode_wholeText, numeral]
  by_cases h : n < 0
  · simp [h, hdigits, fraction_nil, power_nil, bind, Except.bind]
  · obtain ⟨b, t, hbytes, hb⟩ := (isWhole_decimal n.natAbs).head
    have hminus : b ≠ byte '-' := by
      rintro rfl
      cases hb
    rw [hbytes] at hdigits ⊢
    simp [h, hminus, hdigits, fraction_nil, power_nil, bind, Except.bind]

theorem number_wholeText {n : Int} (low : -0x8000000000000000 ≤ n)
    (high : n ≤ 0xFFFFFFFFFFFFFFFF) : number (encode (Value.wholeText n)) = .ok (.whole n, []) := by
  have hvalue := natOfDigits_decimal n.natAbs
  have hsize : n.natAbs < UInt64.size := by
    rw [UInt64.size]
    omega
  have hwhole := wholePart_of_lt (hvalue.symm ▸ hsize)
  rw [hvalue] at hwhole
  have hnumber : (⟨decide (n < 0), digitsOf (encode (decimal n.natAbs)), none, none⟩ :
      Numeral).number? = some (.whole n) := by
    rw [Numeral.number?, hwhole]
    by_cases h : n < 0
    · have hsmall : ¬ (n.natAbs = 0 ∨ 0x8000000000000000 < n.natAbs) := by omega
      have habs : -(n.natAbs : Int) = n := by omega
      simp only [h, hsmall, habs, decide_true, ne_eq, not_true_eq_false, Bool.not_true,
        Bool.false_eq_true, if_false]
    · have habs : (n.natAbs : Int) = n := by omega
      simp only [h, habs, decide_false, ne_eq, not_true_eq_false, Bool.not_false, if_true, if_false]
  rw [number, numeral_wholeText]
  simp only [bind, Except.bind, hnumber]

/-- What a number is read as, or that it is too large, does not depend on what ends it. -/
theorem exists_number {s : Bytes} (h : IsNumber s) : ∃ value : Option Number,
    ∀ {rest : Bytes}, Ends rest →
      number (s ++ rest) = value.elim (.error .malformed) fun n => .ok (n, rest) := by
  obtain ⟨v, hv⟩ := numeral_append h
  refine ⟨v.number?, fun {rest} hrest => ?_⟩
  simp only [number, hv hrest, bind, Except.bind]
  cases v.number? <;> rfl

theorem number_append {s : Bytes} (h : IsNumber s) {n : Number} (alone : number s = .ok (n, []))
    {rest : Bytes} (hrest : Ends rest) : number (s ++ rest) = .ok (n, rest) := by
  obtain ⟨value, hvalue⟩ := exists_number h
  have hnil := hvalue ends_nil
  rw [List.append_nil, alone] at hnil
  rw [hvalue hrest]
  cases value with
  | none => cases hnil
  | some n' =>
    cases hnil
    rfl

section

variable {α : Type} {convert : Number → Option α} {a : α}

theorem numberOf_eq_ok_iff {s lead : Bytes} (h : IsNumber s) (hlead : Blank lead)
    {rest rest' : Bytes} : numberOf convert (lead ++ (s ++ rest)) = .ok (a, rest') ↔
      ∃ n, number (s ++ rest) = .ok (n, rest') ∧ convert n = some a := by
  obtain ⟨b, t, rfl, hb⟩ := h.head
  have hbegins : begins b = true := by
    obtain rfl | hb := hb
    · rfl
    · exact begins_of_isDigit hb
  rw [List.cons_append, numberOf, skipSpace_blank hlead, skipSpace_of_begins hbegins]
  simp only [hb, if_true, bind, Except.bind]
  cases number (b :: (t ++ rest)) with
  | error fault => simp
  | ok read =>
    obtain ⟨n, rest₁⟩ := read
    cases hconvert : convert n with
    | none => simp_all
    | some a' => simp_all [and_comm]

theorem numberOf_alone_iff {s : Bytes} (h : IsNumber s) : numberOf convert s = .ok (a, []) ↔
    ∃ n, number s = .ok (n, []) ∧ convert n = some a := by
  have hiff : numberOf convert ([] ++ (s ++ [])) = .ok (a, []) ↔ _ := numberOf_eq_ok_iff h .nil
  rwa [List.nil_append, List.append_nil] at hiff

theorem numberOf_among {s : Bytes} (h : IsNumber s) (alone : numberOf convert s = .ok (a, []))
    (lead rest : Bytes) (hlead : Blank lead) (hrest : Ends rest) :
    numberOf convert (lead ++ (s ++ rest)) = .ok (a, rest) := by
  obtain ⟨n, hnumber, hconvert⟩ := (numberOf_alone_iff h).mp alone
  exact (numberOf_eq_ok_iff h hlead).mpr ⟨n, number_append h hnumber hrest, hconvert⟩

theorem rereads_number {v : Value} (h : IsNumber v.bytes)
    (alone : numberOf convert v.bytes = .ok (a, [])) : Rereads (numberOf convert) v a :=
  numberOf_among h alone

end

theorem rereads_whole {α : Type} {convert : Number → Option α} {a : α} {n : Int}
    (low : -0x8000000000000000 ≤ n) (high : n ≤ 0xFFFFFFFFFFFFFFFF)
    (converts : convert (.whole n) = some a) : Rereads (numberOf convert) (.whole n) a :=
  rereads_number (isNumber_wholeText n)
    ((numberOf_alone_iff (isNumber_wholeText n)).mpr ⟨_, number_wholeText low high, converts⟩)

theorem rereads_int64 {n : Int} (low : -0x8000000000000000 ≤ n) (high : n ≤ 0x7FFFFFFFFFFFFFFF) :
    Rereads int64 (.whole n) (.ofInt n) := by
  have hwhole : Rereads (wholeIn (-0x8000000000000000) 0x7FFFFFFFFFFFFFFF) (.whole n) n :=
    rereads_whole low (by omega) (if_pos ⟨low, high⟩)
  intro lead rest hlead hrest
  rw [int64, hwhole lead rest hlead hrest]
  rfl

theorem rereads_int64_toInt (n : Int64) : Rereads int64 (.whole n.toInt) n := by
  have hreads := rereads_int64 n.le_toInt (Int.le_of_lt_add_one n.toInt_lt)
  rwa [Int64.ofInt_toInt] at hreads

theorem rereads_uint64 (n : UInt64) : Rereads uint64 (.whole n.toNat) n := by
  have hlt := n.toNat_lt
  have hwhole : Rereads (wholeIn 0 0xFFFFFFFFFFFFFFFF) (.whole n.toNat) n.toNat :=
    rereads_whole (by omega) (by omega) (if_pos ⟨by omega, by omega⟩)
  intro lead rest hlead hrest
  rw [uint64, hwhole lead rest hlead hrest]
  show Except.ok (UInt64.ofNat n.toNat, rest) = _
  rw [UInt64.ofNat_toNat]

/-- The text of the double is read as the double. -/
def ReadsBack (x : Float) : Prop :=
  double (Value.double x).bytes = .ok (x, [])

theorem readsBack_iff {x : Float} :
    (double (Value.double x).bytes).toOption = some (x, []) ↔ ReadsBack x := by
  unfold ReadsBack
  cases double (Value.double x).bytes <;> simp [Except.toOption]

instance (x : Float) : Decidable (ReadsBack x) :=
  decidable_of_iff _ readsBack_iff

theorem bytes_double_none {x : Float} (h : Decimal.Parts.ofFloat? x = none) :
    (Value.double x).bytes = Value.null.bytes := by
  rw [Value.bytes, Value.render, Value.doubleText, h]
  rfl

/-- The word for none is not read as a double. -/
theorem ReadsBack.isNumber {x : Float} (h : ReadsBack x) : IsNumber (Value.double x).bytes := by
  cases hparts : Decimal.Parts.ofFloat? x with
  | none =>
    rw [ReadsBack, bytes_double_none hparts] at h
    cases h
  | some p => exact isNumber_doubleText hparts

theorem rereads_double {x : Float} (h : ReadsBack x) : Rereads double (.double x) x :=
  rereads_number h.isNumber h

/-! ### Lists -/

theorem nextItem_separated {isFirst : Bool} {sep : Bytes} (h : Separates isFirst sep) {b : UInt8}
    (hb : begins b = true) (s : Bytes) :
    nextItem isFirst (sep ++ b :: s) = .ok (some (b :: s)) := by
  have hclosing : b ≠ 0x5D := Bracket.closing_ne .square hb
  cases h with
  | first h =>
    rw [nextItem, skipSpace_blank h, skipSpace_of_begins hb]
    simp only [hclosing, if_true, if_false]
  | later htrail hlead =>
    rw [List.append_assoc, List.cons_append, nextItem, skipSpace_to htrail (by decide)]
    simp only [skipSpace_blank hlead, skipSpace_of_begins hb]
    simp only [hclosing, if_false]
    rfl

theorem itemsWithin_end {α : Type} (read : Reader α) {trail : Bytes} (h : Blank trail) (fuel : Nat)
    (done : List α) (isFirst : Bool) (rest : Bytes) :
    itemsWithin read (fuel + 1) done isFirst (trail ++ 0x5D :: rest) =
      .ok (done.reverse, rest) := by
  have hnext : nextItem isFirst (trail ++ 0x5D :: rest) = .ok none := by
    rw [nextItem, skipSpace_to h (by decide)]
    rfl
  rw [itemsWithin, hnext]
  dsimp only
  rw [listEnd, skipSpace_to h (by decide)]
  rfl

theorem itemsWithin_written {α : Type} {read : Reader α} {vs : List Value} {as : List α}
    (reads : List.Forall₂ (Rereads read) vs as) (nonempty : vs ≠ []) {isFirst : Bool} {sep : Bytes}
    (hsep : Separates isFirst sep) {fuel : Nat} (enough : vs.length < fuel) (done : List α)
    (rest : Bytes) :
    itemsWithin read fuel done isFirst (sep ++ (encode (Value.renderItems vs) ++ 0x5D :: rest)) =
      .ok (done.reverse ++ as, rest) := by
  induction reads generalizing isFirst sep fuel done with
  | nil => exact (nonempty rfl).elim
  | @cons v a vs as hread reads ih =>
    obtain ⟨fuel, rfl⟩ : ∃ k, fuel = k + 1 := ⟨fuel - 1, by omega⟩
    have hfuel : vs.length < fuel := Nat.lt_of_succ_lt_succ enough
    -- one item is read, and the rest after it
    have hstep {t : Bytes} (ht : Ends t) :
        itemsWithin read (fuel + 1) done isFirst (sep ++ (v.bytes ++ t)) =
          itemsWithin read fuel (a :: done) false t := by
      have hitem := hread [] t .nil ht
      obtain ⟨b, text, hbytes, hb⟩ := v.isValue_bytes.head
      rw [hbytes] at hitem ⊢
      rw [List.nil_append, List.cons_append] at hitem
      rw [List.cons_append, itemsWithin, nextItem_separated hsep hb]
      simp only [hitem]
    cases reads with
    | nil =>
      obtain ⟨k, rfl⟩ : ∃ k, fuel = k + 1 := ⟨fuel - 1, by omega⟩
      have hend := itemsWithin_end read .nil k (a :: done) false rest
      rw [List.reverse_cons] at hend
      exact (hstep (ends_closing .square rest)).trans hend
    | @cons w _ vs _ _ _ =>
      have hnext := ih (List.cons_ne_nil w vs) (.later .nil .nil) hfuel (a :: done)
      rw [Value.renderItems, encode_append, List.append_assoc]
      show itemsWithin read (fuel + 1) done isFirst
        (sep ++ (v.bytes ++ byte ',' :: (encode (Value.renderItems (w :: vs)) ++ 0x5D :: rest))) = _
      rw [List.reverse_cons, List.append_assoc done.reverse] at hnext
      exact (hstep (ends_comma _)).trans hnext

theorem rereads_list {α : Type} {read : Reader α} {vs : List Value} {as : List α}
    (reads : List.Forall₂ (Rereads read) vs as) : Rereads (list read) (.list vs) as := by
  intro lead rest hlead _
  have hopen (s : Bytes) : list read (lead ++ 0x5B :: s) =
      itemsWithin read (s.length + 1) [] true s := by
    rw [list, skipSpace_to hlead (by decide)]
    rfl
  by_cases h : vs = []
  · subst h
    cases reads
    show list read (lead ++ 0x5B :: ([] ++ 0x5D :: rest)) = _
    rw [hopen, itemsWithin_end read .nil]
    rfl
  · have hlen := (Value.isItems_renderItems vs h).length_le
    have hbytes : (Value.list vs).bytes = _ := encode_cons '[' _
    rw [hbytes, encode_append]
    show list read (lead ++ 0x5B :: (encode (Value.renderItems vs) ++ [0x5D] ++ rest)) = _
    rw [hopen, List.append_assoc]
    refine itemsWithin_written reads h (.first .nil) ?_ [] rest
    simp only [Value.items, List.length_map, List.length_append, List.length_cons] at hlen ⊢
    omega

/-! ### Records -/

section

variable {σ : Type} {members : List (Member σ)}

theorem Rereads.member {α : Type} {read : Reader α} {v : Value} {a : α} (h : Rereads read v a)
    (name : String) (absence : Absence) (put : σ → α → σ) (record : σ) :
    Rereads ((Member.of name absence read put).read record) v (put record a) := by
  intro lead rest hlead hrest
  show (read (lead ++ (v.bytes ++ rest))).map _ = _
  rw [h lead rest hlead hrest]
  rfl

theorem Reads.written {α : Type} {seen seen' : List String} {record record' : σ}
    {items : List Item} {name : String} {absence : Absence} {read : Reader α} {put : σ → α → σ}
    {v : Value} {a : α}
    (found : Member.find? members name = some (.of name absence read put))
    (new : seen.contains name = false) (rereads : Rereads read v a)
    (rest : Reads members (name :: seen) (put record a) items seen' record') :
    Reads members seen record (⟨codes name, v.bytes⟩ :: items) seen' record' := by
  have htext : textOf (codes name) = name := textOf_codes name
  rw [← htext] at found new rest
  exact .known found new (rereads.member _ absence put record) rest

/-- A written object is read as its members say one after the other. -/
theorem rereads_record {start record : σ} {fields : List (String × Value)} {seen : List String}
    (reads : Reads members [] start (Value.memberItems fields) seen record)
    (complete : Member.complete members seen = true) :
    Rereads (Json.record members start) (.object fields) record := by
  intro lead rest hlead _
  exact record_object (Value.isObject_bytes fields) (Value.paired_memberItems fields) reads complete
    hlead rest

end

end HostAlert.Json
