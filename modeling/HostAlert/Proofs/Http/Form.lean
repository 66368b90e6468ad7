import HostAlert.Http.Form
import HostAlert.Proofs.Text.Utf8

/-!
# Forms are read back

What `Form.encode` writes is read back by `Form.decode`, whatever the names and values hold
(`Form.decode_encode`). A byte of a name or value is written without the two separators
(`no_separator`), so the parts are found again; each byte is then read back by itself
(`decodeBytes_encodeByte`).
-/

namespace HostAlert.Http.Form

/-! ### Bytes -/

theorem hexValue?_hexDigit {n : UInt8} (h : n < 16) : hexValue? (hexDigit n) = some n := by
  have digits : ∀ k < 16, hexValue? (hexDigit (UInt8.ofNat k)) = some (UInt8.ofNat k) := by decide
  have hn := digits n.toNat (UInt8.lt_iff_toNat_lt.mp h)
  rwa [UInt8.ofNat_toNat] at hn

theorem isPlain_hexDigit {n : UInt8} (h : n < 16) : isPlain (hexDigit n) = true := by
  have digits : ∀ k < 16, isPlain (hexDigit (UInt8.ofNat k)) = true := by decide
  have hn := digits n.toNat (UInt8.lt_iff_toNat_lt.mp h)
  rwa [UInt8.ofNat_toNat] at hn

theorem high_lt (b : UInt8) : b / 16 < 16 := by
  have hb := b.toNat_lt
  rw [UInt8.lt_iff_toNat_lt, UInt8.toNat_div]
  simp only [UInt8.reduceToNat]
  omega

theorem low_lt (b : UInt8) : b % 16 < 16 := by
  rw [UInt8.lt_iff_toNat_lt, UInt8.toNat_mod]
  simp only [UInt8.reduceToNat]
  omega

theorem high_low (b : UInt8) : b / 16 * 16 + b % 16 = b := by
  have hb := b.toNat_lt
  rw [← UInt8.toNat_inj, UInt8.toNat_add, UInt8.toNat_mul, UInt8.toNat_div, UInt8.toNat_mod]
  simp only [UInt8.reduceToNat]
  omega

theorem decodeBytes_plus (s : Bytes) : decodeBytes (0x2B :: s) = 0x20 :: decodeBytes s := by
  rw [decodeBytes.eq_def]
  simp only [if_true]

theorem decodeBytes_other {b : UInt8} (plus : b ≠ 0x2B) (sign : b ≠ 0x25) (s : Bytes) :
    decodeBytes (b :: s) = b :: decodeBytes s := by
  rw [decodeBytes.eq_def]
  simp only [plus, sign, if_false]

theorem decodeBytes_percent (b : UInt8) (s : Bytes) :
    decodeBytes (percent b ++ s) = b :: decodeBytes s := by
  show decodeBytes (0x25 :: hexDigit (b / 16) :: hexDigit (b % 16) :: s) = _
  have hplus : ¬ (0x25 : UInt8) = 0x2B := by decide
  rw [decodeBytes, if_neg hplus, if_pos rfl]
  simp only [hexValue?_hexDigit (high_lt b), hexValue?_hexDigit (low_lt b), high_low]

theorem decodeBytes_encodeByte (b : UInt8) (s : Bytes) :
    decodeBytes (encodeByte b ++ s) = b :: decodeBytes s := by
  unfold encodeByte
  split
  · next hplain =>
    have hplus : b ≠ 0x2B := by
      rintro rfl
      exact absurd hplain (by decide)
    have hsign : b ≠ 0x25 := by
      rintro rfl
      exact absurd hplain (by decide)
    rw [List.singleton_append, decodeBytes_other hplus hsign]
  · split
    · next hspace => rw [List.singleton_append, decodeBytes_plus, hspace]
    · exact decodeBytes_percent b s

/-- Nothing that is written for a byte separates parts of a form. -/
theorem no_separator {b c : UInt8} (h : c ∈ encodeByte b) : c ≠ 0x26 ∧ c ≠ 0x3D := by
  have plain {c : UInt8} (hc : isPlain c = true) : c ≠ 0x26 ∧ c ≠ 0x3D := by
    constructor
    · rintro rfl
      exact absurd hc (by decide)
    · rintro rfl
      exact absurd hc (by decide)
  unfold encodeByte at h
  split at h
  · next hplain =>
    rw [List.mem_singleton.mp h]
    exact plain hplain
  · split at h
    · rw [List.mem_singleton.mp h]
      decide
    · simp only [percent, List.mem_cons, List.not_mem_nil, or_false] at h
      rcases h with rfl | rfl | rfl
      · decide
      · exact plain (isPlain_hexDigit (high_lt b))
      · exact plain (isPlain_hexDigit (low_lt b))

/-! ### Texts -/

theorem decodeBytes_flatMap (bytes : Bytes) : decodeBytes (bytes.flatMap encodeByte) = bytes := by
  induction bytes with
  | nil => rfl
  | cons b bytes ih => rw [List.flatMap_cons, decodeBytes_encodeByte, ih]

@[simp] theorem decodeText_encodeText (s : String) : decodeText (encodeText s) = s := by
  rw [decodeText, encodeText, decodeBytes_flatMap, utf8, Text.Utf8.decodeLossy_encode,
    String.ofList_toList]

theorem encodeText_no_separator {s : String} {c : UInt8} (h : c ∈ encodeText s) :
    c ≠ 0x26 ∧ c ≠ 0x3D := by
  obtain ⟨b, -, hc⟩ := List.mem_flatMap.mp h
  exact no_separator hc

/-! ### Pairs -/

def part (pair : String × String) : Bytes :=
  encodeText pair.1 ++ 0x3D :: encodeText pair.2

theorem pairOf_part (pair : String × String) : pairOf (part pair) = pair := by
  have hname : ∀ c ∈ encodeText pair.1, (c != 0x3D) = true := fun c hc =>
    bne_iff_ne.mpr (encodeText_no_separator hc).2
  have htake : (part pair).takeWhile (· != 0x3D) = encodeText pair.1 := by
    rw [part, List.takeWhile_append_of_pos hname, List.takeWhile_cons_of_neg (by decide),
      List.append_nil]
  have hdrop : (part pair).dropWhile (· != 0x3D) = 0x3D :: encodeText pair.2 := by
    rw [part, List.dropWhile_append_of_pos hname, List.dropWhile_cons_of_neg (by decide)]
  rw [pairOf, htake, hdrop, List.drop_one, List.tail_cons, decodeText_encodeText,
    decodeText_encodeText]

theorem part_no_separator {pair : String × String} {c : UInt8} (h : c ∈ part pair) : c ≠ 0x26 := by
  rcases List.mem_append.mp h with h | h
  · exact (encodeText_no_separator h).1
  · rcases List.mem_cons.mp h with rfl | h
    · decide
    · exact (encodeText_no_separator h).1

theorem part_ne_nil (pair : String × String) : part pair ≠ [] := by
  simp [part]

/-! ### The whole form -/

theorem splitAt_of_not_mem {separator : UInt8} {s : Bytes} (h : ∀ c ∈ s, c ≠ separator) :
    splitAt separator s = [s] := by
  induction s with
  | nil => rfl
  | cons b s ih =>
    rw [splitAt, if_neg (h b List.mem_cons_self), ih fun c hc => h c (List.mem_cons_of_mem _ hc)]

theorem splitAt_append {separator : UInt8} {s : Bytes} (h : ∀ c ∈ s, c ≠ separator)
    (rest : Bytes) : splitAt separator (s ++ separator :: rest) = s :: splitAt separator rest := by
  induction s with
  | nil => rw [List.nil_append, splitAt, if_pos rfl]
  | cons b s ih =>
    rw [List.cons_append, splitAt, if_neg (h b List.mem_cons_self),
      ih fun c hc => h c (List.mem_cons_of_mem _ hc)]

/-- The parts between separators are found again. -/
theorem splitAt_intercalate (pair : String × String) (pairs : List (String × String)) :
    splitAt 0x26 ([0x26].intercalate ((pair :: pairs).map part)) = (pair :: pairs).map part := by
  induction pairs generalizing pair with
  | nil =>
    rw [List.map_singleton, List.intercalate_singleton]
    exact splitAt_of_not_mem fun c hc => part_no_separator hc
  | cons next pairs ih =>
    rw [List.map_cons, List.map_cons, List.intercalate_cons_cons, List.append_assoc,
      List.singleton_append, splitAt_append fun c hc => part_no_separator hc, ← List.map_cons, ih]

/-- A form is read back as it was, whatever its names and values hold. -/
theorem decode_encode (pairs : List (String × String)) : decode (encode pairs) = pairs := by
  cases pairs with
  | nil => rfl
  | cons pair pairs =>
    have hkept : ((pair :: pairs).map part).filter (fun p => !p.isEmpty) =
        (pair :: pairs).map part := by
      rw [List.filter_eq_self]
      intro p hp
      obtain ⟨q, -, rfl⟩ := List.mem_map.mp hp
      rw [List.isEmpty_eq_false_iff.mpr (part_ne_nil q)]
      rfl
    have hread : ((pair :: pairs).map part).map pairOf = pair :: pairs := by
      rw [List.map_map]
      exact List.map_id'' (fun q => pairOf_part q) _
    rw [decode]
    show ((splitAt 0x26 ([0x26].intercalate ((pair :: pairs).map part))).filter _).map pairOf = _
    rw [splitAt_intercalate, hkept, hread]

end HostAlert.Http.Form
