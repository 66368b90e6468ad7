import HostAlert.Http.Url

/-!
# Percent signs in paths

A text written for a path stands for the same bytes as the text itself (`percentDecode_encodeInPath`).
These are the bytes of the text unless a percent sign in it is followed by two hexadecimal digits;
then they are fewer (`percentDecode_cases`).
-/

namespace HostAlert.Http.Url

open Text (isHexDigit hexValue)
open Text.Utf8 (encode)

variable {c h l : Char} {s : List Char}

def BeginsHex (s : List Char) : Prop :=
  ∃ h l r, s = h :: l :: r ∧ isHexDigit h = true ∧ isHexDigit l = true

/-- A percent sign in the text is followed by two hexadecimal digits. -/
def HasEscape (s : List Char) : Prop :=
  ∃ front rest, s = front ++ '%' :: rest ∧ BeginsHex rest

theorem not_hasEscape_of_not_mem (h : '%' ∉ s) : ¬ HasEscape s := by
  rintro ⟨front, rest, rfl, -⟩
  exact h (by simp)

theorem hasEscape_cons_iff : HasEscape (c :: s) ↔ (c = '%' ∧ BeginsHex s) ∨ HasEscape s := by
  constructor
  · rintro ⟨front, rest, hs, hrest⟩
    cases front with
    | nil =>
      obtain ⟨rfl, rfl⟩ := List.cons.inj hs
      exact .inl ⟨rfl, hrest⟩
    | cons d front =>
      obtain ⟨-, rfl⟩ := List.cons.inj hs
      exact .inr ⟨front, rest, rfl, hrest⟩
  · rintro (⟨rfl, hs⟩ | ⟨front, rest, rfl, hrest⟩)
    · exact ⟨[], s, rfl, hs⟩
    · exact ⟨c :: front, rest, rfl, hrest⟩

/-! ### Decoding -/

theorem percentDecode_of_ne (hc : c ≠ '%') (s : List Char) :
    percentDecode (c :: s) = String.utf8EncodeChar c ++ percentDecode s := by
  rw [percentDecode.eq_def]
  exact if_neg hc

theorem percentDecode_escape (hh : isHexDigit h = true) (hl : isHexDigit l = true)
    (s : List Char) :
    percentDecode ('%' :: h :: l :: s) =
      (hexValue h * 16 + hexValue l).toUInt8 :: percentDecode s := by
  rw [percentDecode.eq_def]
  simp only [hh, hl, Bool.and_self, if_true]

theorem percentDecode_percent (hs : ¬ BeginsHex s) :
    percentDecode ('%' :: s) = 0x25 :: percentDecode s := by
  rw [percentDecode.eq_def]
  simp only [if_true]
  split
  · next h l r =>
    refine if_neg fun hex => hs ?_
    rw [Bool.and_eq_true] at hex
    exact ⟨h, l, r, rfl, hex⟩
  · rfl

/-- Induction on a text as it is decoded. -/
@[elab_as_elim]
theorem percentDecode_induction {motive : List Char → Prop} (nil : motive [])
    (escape : ∀ h l s, isHexDigit h = true → isHexDigit l = true → motive s →
      motive ('%' :: h :: l :: s))
    (percent : ∀ s, ¬ BeginsHex s → motive s → motive ('%' :: s))
    (other : ∀ c s, c ≠ '%' → motive s → motive (c :: s)) (s : List Char) : motive s := by
  induction s using percentDecode.induct with
  | case1 => exact nil
  | case2 h l s hex ih =>
    rw [Bool.and_eq_true] at hex
    exact escape h l s hex.1 hex.2 ih
  | case3 h l s hex ih =>
    refine percent _ ?_ ih
    rintro ⟨h', l', r, hs, hh, hl⟩
    cases hs
    exact hex (Bool.and_eq_true_iff.mpr ⟨hh, hl⟩)
  | case4 s hshort ih =>
    refine percent s ?_ ih
    rintro ⟨h, l, r, hs, -⟩
    exact hshort h l r hs
  | case5 c s hc ih => exact other c s hc ih

theorem length_utf8EncodeChar_pos (c : Char) : 0 < (String.utf8EncodeChar c).length := by
  rw [String.length_utf8EncodeChar]
  exact c.utf8Size_pos

theorem length_encode_cons (c : Char) (s : List Char) :
    (encode (c :: s)).length = (String.utf8EncodeChar c).length + (encode s).length := by
  rw [encode, List.flatMap_cons, List.length_append, ← encode]

theorem eq_or_length_encode_lt {t : List Char} (h : s.Sublist t) :
    s = t ∨ (encode s).length < (encode t).length := by
  induction h with
  | slnil => exact .inl rfl
  | cons c h ih =>
    have hle := ih.elim (fun heq => Nat.le_of_eq (by rw [heq])) Nat.le_of_lt
    have hpos := length_utf8EncodeChar_pos c
    rw [length_encode_cons]
    exact .inr (by omega)
  | cons_cons c h ih =>
    rw [length_encode_cons, length_encode_cons]
    exact ih.imp (congrArg _) fun hlt => Nat.add_lt_add_left hlt _

/-- A text stands for itself, or it has an escape and stands for fewer bytes. -/
theorem percentDecode_cases (s : List Char) :
    (¬ HasEscape s ∧ percentDecode s = encode s) ∨
      (HasEscape s ∧ (percentDecode s).length < (encode s).length) := by
  induction s using percentDecode_induction with
  | nil => exact .inl ⟨not_hasEscape_of_not_mem List.not_mem_nil, rfl⟩
  | escape h l s hh hl ih =>
    refine .inr ⟨hasEscape_cons_iff.mpr (.inl ⟨rfl, h, l, s, rfl, hh, hl⟩), ?_⟩
    have hle : (percentDecode s).length ≤ (encode s).length :=
      ih.elim (fun plain => Nat.le_of_eq (congrArg List.length plain.2)) fun short =>
        Nat.le_of_lt short.2
    have hpos := length_utf8EncodeChar_pos h
    rw [percentDecode_escape hh hl, List.length_cons, length_encode_cons, length_encode_cons,
      length_encode_cons]
    have hsign : (String.utf8EncodeChar '%').length = 1 := rfl
    omega
  | percent s hs ih =>
    have hiff : HasEscape ('%' :: s) ↔ HasEscape s := by
      rw [hasEscape_cons_iff, or_iff_right fun h => hs h.2]
    rw [percentDecode_percent hs, hiff]
    refine ih.imp (fun ⟨plain, heq⟩ => ⟨plain, ?_⟩) (fun ⟨hescape, hlt⟩ => ⟨hescape, ?_⟩)
    · rw [heq]
      rfl
    · exact Nat.succ_lt_succ hlt
  | other c s hc ih =>
    have hiff : HasEscape (c :: s) ↔ HasEscape s := by
      rw [hasEscape_cons_iff, or_iff_right fun h => hc h.1]
    rw [percentDecode_of_ne hc, hiff]
    refine ih.imp (fun ⟨plain, heq⟩ => ⟨plain, ?_⟩) (fun ⟨hescape, hlt⟩ => ⟨hescape, ?_⟩)
    · rw [heq]
      rfl
    · rw [List.length_append, length_encode_cons]
      omega

/-- A part of a text that stands for all of the text is the text and has no escape. -/
theorem eq_of_percentDecode_eq {t : List Char} (h : s.Sublist t)
    (hdecode : percentDecode s = encode t) : s = t ∧ ¬ HasEscape s := by
  have hlength := congrArg List.length hdecode
  obtain heq | hlt := eq_or_length_encode_lt h
  · refine ⟨heq, fun hescape => ?_⟩
    obtain ⟨plain, -⟩ | ⟨-, hshort⟩ := percentDecode_cases s
    · exact plain hescape
    · rw [heq] at hshort hlength
      omega
  · obtain ⟨-, heq⟩ | ⟨-, hshort⟩ := percentDecode_cases s
    · rw [heq] at hlength
      omega
    · omega

/-! ### Encoding -/

def upperDigit (n : Nat) : Char :=
  ((Nat.toDigits 16 n).headD '0').toUpper

def percentByte (b : UInt8) : List Char :=
  ['%', upperDigit (b.toNat / 16), upperDigit (b.toNat % 16)]

theorem percentEncode_eq (c : Char) :
    percentEncode c = (String.utf8EncodeChar c).flatMap percentByte := rfl

theorem upperDigit_spec : ∀ n < 16, isHexDigit (upperDigit n) = true ∧
    hexValue (upperDigit n) = n ∧ upperDigit n ≠ '/' ∧ upperDigit n ≠ '?' := by
  decide

theorem high_lt (b : UInt8) : b.toNat / 16 < 16 := by
  have hb := b.toNat_lt
  omega

theorem low_lt (b : UInt8) : b.toNat % 16 < 16 :=
  Nat.mod_lt _ (by decide)

theorem percentDecode_percentByte (b : UInt8) (s : List Char) :
    percentDecode (percentByte b ++ s) = b :: percentDecode s := by
  obtain ⟨hhigh, highValue, -⟩ := upperDigit_spec _ (high_lt b)
  obtain ⟨hlow, lowValue, -⟩ := upperDigit_spec _ (low_lt b)
  refine (percentDecode_escape hhigh hlow s).trans ?_
  rw [highValue, lowValue, Nat.div_add_mod', Nat.toUInt8_eq, UInt8.ofNat_toNat]

theorem percentDecode_percentEncode (c : Char) (s : List Char) :
    percentDecode (percentEncode c ++ s) = String.utf8EncodeChar c ++ percentDecode s := by
  rw [percentEncode_eq]
  induction String.utf8EncodeChar c with
  | nil => rfl
  | cons b bytes ih =>
    rw [List.flatMap_cons, List.append_assoc, percentDecode_percentByte, ih, List.cons_append]

/-- A character is written as it is or with percent signs. -/
theorem encodeInPath_cases (c : Char) : encodeInPath c = [c] ∨
    encodeInPath c = percentEncode c := by
  unfold encodeInPath
  split
  · exact .inr rfl
  · exact .inl rfl

theorem encodeInPath_percent : encodeInPath '%' = ['%'] := by decide

theorem encodeInPath_hexDigit (hh : isHexDigit h = true) : encodeInPath h = [h] := by
  -- hexadecimal digits are among the first 128 characters, and these can be tried
  have digits : ∀ n < 128, isHexDigit (Char.ofNat n) = true →
      encodeInPath (Char.ofNat n) = [Char.ofNat n] := by decide
  have hlt : h.toNat < 128 := by
    have hbound (d : Char) (hd : d.toNat < 128) (hle : h ≤ d) : h.toNat < 128 :=
      Nat.lt_of_le_of_lt hle hd
    simp only [isHexDigit, Char.isDigit, Bool.or_eq_true, Bool.and_eq_true, decide_eq_true_eq] at hh
    obtain (⟨-, hle⟩ | ⟨-, hle⟩) | ⟨-, hle⟩ := hh
    · exact hbound '9' (by decide) hle
    · exact hbound 'f' (by decide) hle
    · exact hbound 'F' (by decide) hle
  have hdigit := digits h.toNat hlt
  rw [Char.ofNat_toNat] at hdigit
  exact hdigit hh

theorem percentEncode_begins (c : Char) : ∃ s, percentEncode c = '%' :: s := by
  obtain ⟨b, bytes, hbytes⟩ := List.exists_cons_of_length_pos (length_utf8EncodeChar_pos c)
  exact ⟨_, by rw [percentEncode_eq, hbytes, List.flatMap_cons]; rfl⟩

theorem exists_of_encoded_eq_cons (hh : isHexDigit h = true) {r : List Char}
    (heq : s.flatMap encodeInPath = h :: r) : ∃ t, s = h :: t ∧ t.flatMap encodeInPath = r := by
  cases s with
  | nil => cases heq
  | cons c s =>
    rw [List.flatMap_cons] at heq
    obtain hplain | hcoded := encodeInPath_cases c
    · rw [hplain] at heq
      obtain ⟨rfl, rfl⟩ := List.cons.inj heq
      exact ⟨s, rfl, rfl⟩
    · obtain ⟨t, ht⟩ := percentEncode_begins c
      rw [hcoded, ht] at heq
      obtain ⟨rfl, -⟩ := List.cons.inj heq
      exact absurd hh (by decide)

theorem beginsHex_of_encoded (hs : BeginsHex (s.flatMap encodeInPath)) : BeginsHex s := by
  obtain ⟨h, l, r, heq, hh, hl⟩ := hs
  obtain ⟨t, rfl, ht⟩ := exists_of_encoded_eq_cons hh heq
  obtain ⟨u, rfl, -⟩ := exists_of_encoded_eq_cons hl ht
  exact ⟨h, l, u, rfl, hh, hl⟩

/-- What is written for a text in a path stands for what the text stands for. -/
theorem percentDecode_encodeInPath (s : List Char) :
    percentDecode (s.flatMap encodeInPath) = percentDecode s := by
  induction s using percentDecode_induction with
  | nil => rfl
  | escape h l s hh hl ih =>
    rw [List.flatMap_cons, List.flatMap_cons, List.flatMap_cons, encodeInPath_percent,
      encodeInPath_hexDigit hh, encodeInPath_hexDigit hl, percentDecode_escape hh hl, ← ih]
    exact percentDecode_escape hh hl _
  | percent s hs ih =>
    rw [List.flatMap_cons, encodeInPath_percent, percentDecode_percent hs, ← ih]
    exact percentDecode_percent (mt beginsHex_of_encoded hs)
  | other c s hc ih =>
    rw [List.flatMap_cons, percentDecode_of_ne hc, ← ih]
    obtain hplain | hcoded := encodeInPath_cases c
    · rw [hplain]
      exact percentDecode_of_ne hc _
    · rw [hcoded]
      exact percentDecode_percentEncode c _

theorem mem_encodeInPath {d : Char} (hc : c ∈ encodeInPath d) :
    c ≠ '?' ∧ (c = '/' → d = '/') := by
  unfold encodeInPath at hc
  split at hc
  · rw [percentEncode_eq] at hc
    obtain ⟨b, -, hb⟩ := List.mem_flatMap.mp hc
    obtain ⟨-, -, hslash, hmark⟩ := upperDigit_spec _ (high_lt b)
    obtain ⟨-, -, hslash', hmark'⟩ := upperDigit_spec _ (low_lt b)
    simp only [percentByte, List.mem_cons, List.not_mem_nil, or_false] at hb
    obtain rfl | rfl | rfl := hb
    · exact ⟨by decide, fun h => absurd h (by decide)⟩
    · exact ⟨hmark, fun h => absurd h hslash⟩
    · exact ⟨hmark', fun h => absurd h hslash'⟩
  · next hd =>
    obtain rfl := List.mem_singleton.mp hc
    refine ⟨?_, id⟩
    rintro rfl
    exact hd (by decide)

end HostAlert.Http.Url
