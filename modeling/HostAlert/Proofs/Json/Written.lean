import Mathlib.Data.List.Basic
import HostAlert.Json.Value
import HostAlert.Proofs.Json.Scan
import HostAlert.Proofs.Text.Digits
import HostAlert.Proofs.Text.Utf8

/-!
# What is written is well formed

The text of every value is a value of the grammar (`Value.isValue_bytes`), and that of an object has
its members in order (`Value.isItems_renderMembers`). The digits of a double are those of a decimal
that is not zero, unless the double is (`shortest_pos`); only then do they begin with a zero.
-/

namespace HostAlert

namespace Text

namespace Utf8

theorem encode_nil : encode [] = [] := rfl

theorem encode_append (s t : List Char) : encode (s ++ t) = encode s ++ encode t :=
  List.flatMap_append

theorem encode_cons (c : Char) (s : List Char) :
    encode (c :: s) = String.utf8EncodeChar c ++ encode s := rfl

end Utf8

end Text

namespace Json

open Text (decimal)
open Text.Utf8 (encode encode_nil encode_append encode_cons)

/-! ### Characters -/

theorem encodeChar_ascii {c : Char} (h : c.toNat < 0x80) : String.utf8EncodeChar c = [byte c] := by
  have hsize : c.val.toNat ≤ 127 := Nat.le_of_lt_succ h
  unfold String.utf8EncodeChar
  dsimp only
  rw [if_pos hsize]
  rfl

theorem toNat_byte {c : Char} (h : c.toNat < 0x80) : (byte c).toNat = c.toNat := by
  rw [byte, Nat.toUInt8, UInt8.toNat_ofNat']
  omega

theorem isDigit_range {c : Char} (h : c.isDigit = true) : 0x30 ≤ c.toNat ∧ c.toNat ≤ 0x39 := by
  simp only [Char.isDigit, Bool.and_eq_true, decide_eq_true_eq, ge_iff_le,
    UInt32.le_iff_toNat_le] at h
  exact h

theorem isDigit_byte {c : Char} (h : c.isDigit = true) : isDigit (byte c) = true := by
  obtain ⟨hlow, hhigh⟩ := isDigit_range h
  simp only [isDigit, Bool.and_eq_true, decide_eq_true_eq, UInt8.le_iff_toNat_le,
    toNat_byte (by omega : c.toNat < 0x80), UInt8.reduceToNat]
  exact ⟨hlow, hhigh⟩

theorem encode_ascii {s : List Char} (h : ∀ c ∈ s, c.toNat < 0x80) : encode s = s.map byte := by
  induction s with
  | nil => rfl
  | cons c s ih =>
    obtain ⟨hc, hs⟩ := List.forall_mem_cons.mp h
    rw [encode_cons, encodeChar_ascii hc, ih hs]
    rfl

theorem encode_replicate {c : Char} (h : c.toNat < 0x80) (n : Nat) :
    encode (List.replicate n c) = List.replicate n (byte c) := by
  rw [encode_ascii fun c' hc => List.eq_of_mem_replicate hc ▸ h, List.map_replicate]

theorem encode_digits {s : List Char} (h : ∀ c ∈ s, c.isDigit = true) : encode s = s.map byte :=
  encode_ascii fun c hc => by
    have := isDigit_range (h c hc)
    omega

/-! ### Numbers -/

theorem isDigits_encode {s : List Char} (nonempty : s ≠ []) (h : ∀ c ∈ s, c.isDigit = true) :
    IsDigits (encode s) := by
  rw [encode_digits h]
  refine ⟨mt List.map_eq_nil_iff.mp nonempty, fun b hb => ?_⟩
  obtain ⟨c, hc, rfl⟩ := List.mem_map.mp hb
  exact isDigit_byte (h c hc)

theorem isWhole_encode {s : List Char} (nonempty : s ≠ []) (h : ∀ c ∈ s, c.isDigit = true)
    (head : s.head? ≠ some '0') : IsWhole (encode s) := by
  refine .digits (isDigits_encode nonempty h) fun hzero => ?_
  cases s with
  | nil => exact (nonempty rfl).elim
  | cons c s =>
    have hc := isDigit_range (h c List.mem_cons_self)
    rw [encode_digits h] at hzero
    have hcode := congrArg UInt8.toNat (Option.some.inj hzero)
    rw [toNat_byte (by omega), toNat_byte (by decide)] at hcode
    exact head (congrArg some (Char.toNat_inj.mp hcode))

theorem isWhole_decimal (n : Nat) : IsWhole (encode (decimal n)) := by
  obtain rfl | h := Nat.eq_zero_or_pos n
  · exact .zero
  · exact isWhole_encode (Text.decimal_ne_nil n) (fun _ => Text.isDigit_of_mem_decimal)
      (Text.head_decimal h)

inductive IsUnsigned : Bytes → Prop
  | parts {whole fraction power : Bytes} (h : IsWhole whole) (hf : IsFraction fraction)
      (hp : IsPower power) : IsUnsigned (whole ++ (fraction ++ power))

theorem IsUnsigned.signed {s : Bytes} (h : IsUnsigned s) (negative : Bool) :
    IsNumber ((if negative then [byte '-'] else []) ++ s) := by
  obtain ⟨h, hf, hp⟩ := h
  cases negative with
  | false =>
    have hnumber := IsNumber.positive h hf hp
    exact hnumber
  | true =>
    have hnumber := IsNumber.negative h hf hp
    exact hnumber

theorem isUnsigned_decimal (n : Nat) : IsUnsigned (encode (decimal n)) := by
  have h := IsUnsigned.parts (isWhole_decimal n) .none .none
  rwa [List.append_nil, List.append_nil] at h

theorem encode_wholeText (n : Int) : encode (Value.wholeText n) =
    (if decide (n < 0) then [byte '-'] else []) ++ encode (decimal n.natAbs) := by
  unfold Value.wholeText
  by_cases h : n < 0
  · simp only [h, if_true, decide_true]
    rfl
  · simp only [h, if_false, decide_false, Bool.false_eq_true, List.nil_append]

theorem isNumber_wholeText (n : Int) : IsNumber (encode (Value.wholeText n)) := by
  rw [encode_wholeText]
  exact (isUnsigned_decimal _).signed _

theorem isPower_exponent (n : Int) : IsPower (encode ('e' :: Value.wholeText n)) := by
  have hdigits := isDigits_encode (Text.decimal_ne_nil n.natAbs)
    fun _ => Text.isDigit_of_mem_decimal
  rw [encode_cons, encode_wholeText]
  by_cases h : n < 0
  · simp only [h, decide_true, if_true]
    have hpower := IsPower.exponent (.inl rfl) .minus hdigits
    exact hpower
  · simp only [h, decide_false, Bool.false_eq_true, if_false]
    have hpower := IsPower.exponent (.inl rfl) .none hdigits
    exact hpower

theorem isFraction_encode {s : List Char} (nonempty : s ≠ []) (h : ∀ c ∈ s, c.isDigit = true) :
    IsFraction (encode ('.' :: s)) :=
  .point (isDigits_encode nonempty h)

theorem isFraction_zero : IsFraction (encode ['.', '0']) :=
  isFraction_encode (List.cons_ne_nil _ _) (List.forall_mem_singleton.mpr rfl)

/-- A decimal is written as a number, in each of the four ways. -/
theorem isUnsigned_decimalText {n : Nat} (h : 0 < n) (e : Int) :
    IsUnsigned (encode (Value.decimalText n e)) := by
  have hdigit {c : Char} : c ∈ decimal n → c.isDigit = true := Text.isDigit_of_mem_decimal
  have hzero {k : Nat} {c : Char} (hc : c ∈ List.replicate k '0') : c.isDigit = true := by
    rw [List.eq_of_mem_replicate hc]
    rfl
  have hlen : 0 < (decimal n).length := List.length_pos_iff.mpr (Text.decimal_ne_nil n)
  have hhead := Text.head_decimal h
  -- the front of the digits begins as they do
  have hfront {k : Nat} (hk : 0 < k) : IsWhole (encode ((decimal n).take k)) := by
    refine isWhole_encode ?_ (fun c hc => hdigit (List.mem_of_mem_take hc)) ?_
    · rw [ne_eq, List.take_eq_nil_iff]
      exact not_or.mpr ⟨by omega, Text.decimal_ne_nil n⟩
    · rwa [List.head?_take, if_neg (by omega)]
  have hback {k : Nat} (hk : k < (decimal n).length) :
      IsFraction (encode ('.' :: (decimal n).drop k)) :=
    isFraction_encode (by rw [ne_eq, List.drop_eq_nil_iff]; omega)
      fun c hc => hdigit (List.mem_of_mem_drop hc)
  unfold Value.decimalText
  dsimp only
  split
  · -- zeros up to the point
    have hwhole : IsWhole (encode (decimal n ++ List.replicate e.toNat '0')) := by
      refine isWhole_encode (by simp [Text.decimal_ne_nil n])
        (fun c hc => (List.mem_append.mp hc).elim hdigit hzero) ?_
      rwa [List.head?_append_of_ne_nil _ (Text.decimal_ne_nil n)]
    have hnumber := IsUnsigned.parts hwhole isFraction_zero .none
    rwa [List.append_nil, ← encode_append] at hnumber
  · split
    · -- the point between two digits
      next hpoint =>
      have hnumber := IsUnsigned.parts (hfront (k := ((decimal n).length + e).toNat) (by omega))
        (hback (k := ((decimal n).length + e).toNat) (by omega)) .none
      rwa [List.append_nil, ← encode_append] at hnumber
    · split
      · -- zeros after the point
        have hfraction : IsFraction (encode ('.' ::
            (List.replicate (-((decimal n).length + e)).toNat '0' ++ decimal n))) :=
          isFraction_encode (by simp [Text.decimal_ne_nil n])
            fun c hc => (List.mem_append.mp hc).elim hzero hdigit
        have hnumber := IsUnsigned.parts .zero hfraction .none
        rwa [List.append_nil] at hnumber
      · -- one digit before the point, and an exponent
        have hpower := isPower_exponent ((decimal n).length + e - 1)
        split
        · have hnumber := IsUnsigned.parts (hfront Nat.one_pos) .none hpower
          rw [List.append_nil]
          rwa [List.nil_append, ← encode_append] at hnumber
        · next hone =>
          have hnumber := IsUnsigned.parts (hfront Nat.one_pos) (hback (k := 1) (by omega)) hpower
          rw [List.append_assoc]
          rwa [← encode_append, ← encode_append] at hnumber

/-! ### Doubles -/

theorem isNear_zero {p : Decimal.Parts} (h : 0 < p.significand) (e : Int) :
    p.isNear 0 e = false := by
  have hlow : 0 < p.bounds.1.num := by
    have hbelow : (if p.significand = Decimal.hiddenBit ∧ -1074 < p.exponent then 1 else 2) ≤ 2 := by
      split <;> decide
    have hpow (k : Nat) : 0 < Nat.pow 2 k := Nat.pow_pos (by decide)
    exact Nat.mul_pos (by omega) (hpow _)
  have hden (k : Nat) : 0 < Nat.pow 10 k := Nat.pow_pos (by decide)
  have hpos : 0 < p.bounds.1.num * (Decimal.Ratio.ofDecimal 0 e).den :=
    Nat.mul_pos hlow (hden _)
  have hzero : (Decimal.Ratio.ofDecimal 0 e).num = 0 := Nat.zero_mul _
  unfold Decimal.Parts.isNear
  simp only [Decimal.Ratio.le, Decimal.Ratio.lt, hzero, Nat.zero_mul]
  split
  · simp only [Nat.le_zero, Nat.ne_of_gt hpos, decide_false, Bool.false_and]
  · simp only [Nat.not_lt_zero, decide_false, Bool.false_and]

theorem nearAt_pos {p : Decimal.Parts} (h : 0 < p.significand) {digits n : Nat} {e : Int}
    (near : p.nearAt digits = some (n, e)) : 0 < n := by
  have hnear {k : Nat} {e : Int} (hk : p.isNear k e = true) : 0 < k := by
    refine Nat.pos_of_ne_zero fun hzero => ?_
    rw [hzero, isNear_zero h] at hk
    cases hk
  unfold Decimal.Parts.nearAt at near
  dsimp only at near
  have habove {k : Nat} {e e' : Int} {a : Nat × Int}
      (ha : (if k + 1 = Nat.pow 10 digits then (1, e') else (k + 1, e)) = a) : 0 < a.1 := by
    rw [← ha]
    split
    · exact Nat.one_pos
    · exact Nat.succ_pos k
  split at near
  · next hfirst _ =>
    split at near
    · cases near
      exact hnear hfirst
    · exact habove (Option.some.inj near)
  · next hfirst _ =>
    cases near
    exact hnear hfirst
  · exact habove (Option.some.inj near)
  · cases near

theorem shortest_pos {p : Decimal.Parts} (h : 0 < p.significand) :
    0 < p.shortest.1 ∨ p.shortest = (0, 0) := by
  unfold Decimal.Parts.shortest
  cases hfound : (List.range 17).findSome? fun digits => p.nearAt (digits + 1) with
  | none => exact .inr rfl
  | some found =>
    obtain ⟨digits, -, hnear⟩ := List.exists_of_findSome?_eq_some hfound
    exact .inl (nearAt_pos h hnear)

theorem isNumber_doubleText {x : Float} {p : Decimal.Parts} (h : Decimal.Parts.ofFloat? x = some p) :
    IsNumber (encode (Value.doubleText x)) := by
  have hzero : IsUnsigned ([byte '0'] ++ (encode ['.', '0'] ++ [])) :=
    .parts .zero isFraction_zero .none
  have hunsigned : IsUnsigned (encode (if p.significand = 0 then ['0', '.', '0']
      else Value.decimalText p.shortest.1 p.shortest.2)) := by
    split
    · exact hzero
    · next hne =>
      obtain hpos | hfallback := shortest_pos (Nat.pos_of_ne_zero hne)
      · exact isUnsigned_decimalText hpos _
      · rw [hfallback]
        exact hzero
  have hnumber := hunsigned.signed p.negative
  have hsign : encode (if p.negative then ['-'] else []) =
      if p.negative then [byte '-'] else [] := by
    cases p.negative <;> rfl
  rw [← hsign, ← encode_append] at hnumber
  rw [Value.doubleText, h]
  exact hnumber

theorem isValue_doubleText (x : Float) : IsValue (encode (Value.doubleText x)) := by
  cases h : Decimal.Parts.ofFloat? x with
  | none =>
    rw [Value.doubleText, h]
    exact .null
  | some p => exact .number (isNumber_doubleText h)

/-! ### Texts -/

theorem isSurrogate_toNat (c : Char) : isSurrogate c.toNat = false := by
  have hrange := Text.Utf8.code_range c
  have hcode : c.toNat = c.val.toNat := rfl
  simp only [isSurrogate, isHighSurrogate, isLowSurrogate, Bool.or_eq_false_iff,
    Bool.and_eq_false_iff, decide_eq_false_iff_not]
  omega

theorem encode_control : ∀ n < 0x20,
    encode ['\x5c', 'u', '0', '0', Value.hexDigit (n / 16), Value.hexDigit n] =
      [0x5C, byte 'u', byte '0', byte '0', byte (Value.hexDigit (n / 16)), byte (Value.hexDigit n)] ∧
    hexUnit? (byte '0') (byte '0') (byte (Value.hexDigit (n / 16))) (byte (Value.hexDigit n)) =
      some n := by
  decide

/-- Each character is written so that it is read as itself. -/
theorem spells_escape (c : Char) {points : List Nat} {s : Bytes} (rest : Spells points s) :
    Spells (c.toNat :: points) (encode (Value.escape c) ++ s) := by
  unfold Value.escape
  split
  · next h =>
    subst h
    exact .letter 0x22 0x22 rfl rest
  split
  · next h =>
    subst h
    exact .letter 0x5C 0x5C rfl rest
  split
  · next h =>
    subst h
    exact .letter (byte 'b') 0x08 rfl rest
  split
  · next h =>
    subst h
    exact .letter (byte 't') 0x09 rfl rest
  split
  · next h =>
    subst h
    exact .letter (byte 'n') 0x0A rfl rest
  split
  · next h =>
    subst h
    exact .letter (byte 'f') 0x0C rfl rest
  split
  · next h =>
    subst h
    exact .letter (byte 'r') 0x0D rfl rest
  split
  · next hcontrol =>
    obtain ⟨hbytes, hunit⟩ := encode_control c.toNat hcontrol
    rw [hbytes]
    refine .unit _ _ _ _ c.toNat hunit (fun high => ?_) rest
    have hsurrogate := isSurrogate_toNat c
    rw [isSurrogate, high] at hsurrogate
    cases hsurrogate
  · next hquote hslash _ _ _ _ _ hprintable =>
    have hne {d : Char} (h : ¬ c = d) : c.toNat ≠ d.toNat := fun heq => h (Char.toNat_inj.mp heq)
    rw [encode_cons, encode_nil, List.append_nil]
    exact .plain c (Nat.not_lt.mp hprintable) (hne hquote) (hne hslash) rest

theorem spells_quoted (s : String) : Spells (codes s) (encode (s.toList.flatMap Value.escape)) := by
  unfold codes
  induction s.toList with
  | nil => exact .nil
  | cons c s ih =>
    rw [List.flatMap_cons, encode_append]
    exact spells_escape c ih

theorem encode_quoted (s : String) :
    encode (Value.quoted s) = 0x22 :: (encode (s.toList.flatMap Value.escape) ++ [0x22]) := by
  rw [Value.quoted, encode_cons, encode_append]
  rfl

/-! ### Values -/

namespace Value

def items (vs : List Value) : List Item :=
  vs.map fun v => ⟨[], v.bytes⟩

def memberItems (members : List (String × Value)) : List Item :=
  members.map fun m => ⟨codes m.1, m.2.bytes⟩

theorem isLabel_name (name : String) (s : List Char) : ∃ label, IsLabel .curly (codes name) label ∧
    encode (quoted name ++ ':' :: s) = label ++ encode s := by
  refine ⟨_, .curly (spells_quoted name) .nil .nil, ?_⟩
  rw [encode_append, encode_quoted]
  simp only [encode_cons, List.cons_append, List.append_assoc, List.nil_append]
  rfl

mutual

/-- Whatever is written is a value. -/
theorem isValue_bytes : (v : Value) → IsValue v.bytes
  | .null => .null
  | .bool true => .yes
  | .bool false => .no
  | .whole n => .number (isNumber_wholeText n)
  | .double x => isValue_doubleText x
  | .text s => by
    have htext := IsValue.text (spells_quoted s)
    rwa [← encode_quoted] at htext
  | .list [] => .empty .square .nil
  | .list (v :: vs) => by
    have hitems := IsValue.items .square .nil (isItems_renderItems (v :: vs) nofun)
    have hbytes : (list (v :: vs)).bytes = _ := encode_cons '[' _
    rw [hbytes, encode_append]
    exact hitems
  | .object [] => .empty .curly .nil
  | .object (m :: members) => by
    have hitems := IsValue.items .curly .nil (isItems_renderMembers (m :: members) nofun)
    have hbytes : (object (m :: members)).bytes = _ := encode_cons '\x7b' _
    rw [hbytes, encode_append]
    exact hitems

theorem isItems_renderItems : (vs : List Value) → vs ≠ [] →
    IsItems .square (items vs) (encode (renderItems vs))
  | [], h => (h rfl).elim
  | [v], _ => by
    have hlast := IsItems.last .square v.isValue_bytes .nil
    rw [List.append_nil] at hlast
    exact hlast
  | v :: w :: vs, _ => by
    have hmore := IsItems.more .square v.isValue_bytes .nil .nil
      (isItems_renderItems (w :: vs) nofun)
    rw [renderItems, encode_append]
    exact hmore

theorem isItems_renderMembers : (members : List (String × Value)) → members ≠ [] →
    IsItems .curly (memberItems members) (encode (renderMembers members))
  | [], h => (h rfl).elim
  | [(name, v)], _ => by
    obtain ⟨label, hlabel, hbytes⟩ := isLabel_name name v.render
    have hlast := IsItems.last hlabel v.isValue_bytes .nil
    rw [List.append_nil] at hlast
    rw [renderMembers, hbytes]
    exact hlast
  | (name, v) :: m :: members, _ => by
    obtain ⟨label, hlabel, hbytes⟩ :=
      isLabel_name name (v.render ++ ',' :: renderMembers (m :: members))
    have hmore := IsItems.more hlabel v.isValue_bytes .nil .nil
      (isItems_renderMembers (m :: members) nofun)
    rw [renderMembers, hbytes, encode_append]
    exact hmore

end

theorem isObject_bytes (members : List (String × Value)) :
    IsObject (memberItems members) (object members).bytes := by
  cases members with
  | nil => exact .empty .nil
  | cons m members =>
    have hitems := IsObject.items .nil (isItems_renderMembers (m :: members) nofun)
    have hbytes : (object (m :: members)).bytes = _ := encode_cons '\x7b' _
    rw [hbytes, encode_append]
    exact hitems

theorem renderMembers_concat {members : List (String × Value)} (h : members ≠ [])
    (m : String × Value) :
    renderMembers (members ++ [m]) = renderMembers members ++ ',' :: renderMembers [m] := by
  induction members with
  | nil => exact (h rfl).elim
  | cons first members ih =>
    cases members with
    | nil => simp [renderMembers]
    | cons second members =>
      have hrest := ih nofun
      rw [List.cons_append] at hrest
      simp only [List.cons_append, renderMembers, hrest, List.append_assoc]

theorem length_object_concat {members : List (String × Value)} (h : members ≠ []) (name : String)
    (v : Value) : (object (members ++ [(name, v)])).bytes.length =
      (object members).bytes.length + (encode (quoted name)).length + v.bytes.length + 2 := by
  have hobject (members : List (String × Value)) :
      (object members).bytes.length = (encode (renderMembers members)).length + 2 := by
    show (encode ('\x7b' :: (renderMembers members ++ ['\x7d']))).length = _
    simp only [encode_cons, encode_append, List.length_append]
    show 1 + (_ + 1) = _
    omega
  rw [hobject, hobject, renderMembers_concat h]
  simp only [renderMembers, encode_append, encode_cons, List.length_append]
  show _ + (1 + (_ + (1 + (encode v.render).length))) + 2 = _ + 2 + _ + (encode v.render).length + 2
  omega

end Value

end Json

end HostAlert
