import HostAlert.Text.Utf8

/-!
# Reading back what was encoded

A text is read back from its bytes (`Text.Utf8.decode?_encode`, `Text.Utf8.decodeLossy_encode`). The
bytes of one character are told apart by the first of them, so each length has its own equation of
`scanFrom`. A byte that is a character by itself is read as that character, whatever stands around
it (`Text.Utf8.mem_decodeLossy_of_lt`).
-/

namespace HostAlert.Text.Utf8

variable {a b c d : UInt8} {done : List (Option Char)} {s : Bytes}

/-! ### Characters by their length -/

theorem scanFrom_of_one (ha : a < 0x80) :
    scanFrom done (a :: s) = scanFrom (some (Char.ofNat a.toNat) :: done) s := by
  rw [scanFrom.eq_def]
  simp only [ha, if_true]

theorem scanFrom_of_two (ha : 0xC2 ≤ a ∧ a ≤ 0xDF) (hb : isTail b = true) :
    scanFrom done (a :: b :: s) = scanFrom (some (charOfTwo a b) :: done) s := by
  have hbig : ¬ a < 0x80 := UInt8.not_lt.mpr (UInt8.le_trans (by decide) ha.1)
  rw [scanFrom.eq_def]
  simp only [hbig, ha, hb, and_self, if_true, if_false]

theorem scanFrom_of_three (ha : 0xE0 ≤ a ∧ a ≤ 0xEF) (hb : isSecondOfThree a b = true)
    (hc : isTail c = true) :
    scanFrom done (a :: b :: c :: s) = scanFrom (some (charOfThree a b c) :: done) s := by
  have hbig : ¬ a < 0x80 := UInt8.not_lt.mpr (UInt8.le_trans (by decide) ha.1)
  have htwo : ¬ (0xC2 ≤ a ∧ a ≤ 0xDF) := fun h =>
    absurd (UInt8.le_trans ha.1 h.2) (by decide)
  rw [scanFrom.eq_def]
  simp only [hbig, htwo, ha, hb, hc, and_self, if_true, if_false]

theorem scanFrom_of_four (ha : 0xF0 ≤ a ∧ a ≤ 0xF4) (hb : isSecondOfFour a b = true)
    (hc : isTail c = true) (hd : isTail d = true) :
    scanFrom done (a :: b :: c :: d :: s) = scanFrom (some (charOfFour a b c d) :: done) s := by
  have hbig : ¬ a < 0x80 := UInt8.not_lt.mpr (UInt8.le_trans (by decide) ha.1)
  have htwo : ¬ (0xC2 ≤ a ∧ a ≤ 0xDF) := fun h =>
    absurd (UInt8.le_trans ha.1 h.2) (by decide)
  have hthree : ¬ (0xE0 ≤ a ∧ a ≤ 0xEF) := fun h =>
    absurd (UInt8.le_trans ha.1 h.2) (by decide)
  rw [scanFrom.eq_def]
  simp only [hbig, htwo, hthree, ha, hb, hc, hd, and_self, if_true, if_false]

/-! ### Encoded characters -/

theorem code_range (c : Char) :
    c.val.toNat < 0xD800 ∨ 0xDFFF < c.val.toNat ∧ c.val.toNat < 0x110000 :=
  c.valid

theorem ofNat_eq_of_code {c : Char} {n : Nat} (h : n = c.val.toNat) : Char.ofNat n = c := by
  rw [h]
  exact Char.ofNat_toNat c

theorem isTail_payload (n : Nat) : isTail (UInt8.ofNat (n % 64 + 128)) = true := by
  simp only [isTail, UInt8.le_iff_toNat_le, UInt8.toNat_ofNat', UInt8.reduceToNat,
    Bool.and_eq_true, decide_eq_true_eq]
  omega

/-- The second of three bytes is bounded where it would spell a shorter form or a surrogate. -/
theorem isSecondOfThree_payload {n : Nat} (long : 2047 < n) (short : n ≤ 65535)
    (hrange : n < 0xD800 ∨ 0xDFFF < n) :
    isSecondOfThree (UInt8.ofNat (n / 4096 % 16 + 224)) (UInt8.ofNat (n / 64 % 64 + 128)) =
      true := by
  simp only [isSecondOfThree, isTail, beq_iff_eq, UInt8.le_iff_toNat_le, ← UInt8.toNat_inj,
    UInt8.toNat_ofNat', UInt8.reduceToNat]
  split
  · simp only [Bool.and_eq_true, decide_eq_true_eq]
    omega
  · split
    · simp only [Bool.and_eq_true, decide_eq_true_eq]
      omega
    · simp only [Bool.and_eq_true, decide_eq_true_eq]
      omega

theorem isSecondOfFour_payload {n : Nat} (long : 65535 < n) (hrange : n < 0x110000) :
    isSecondOfFour (UInt8.ofNat (n / 262144 % 8 + 240)) (UInt8.ofNat (n / 4096 % 64 + 128)) =
      true := by
  simp only [isSecondOfFour, isTail, beq_iff_eq, UInt8.le_iff_toNat_le, ← UInt8.toNat_inj,
    UInt8.toNat_ofNat', UInt8.reduceToNat]
  split
  · simp only [Bool.and_eq_true, decide_eq_true_eq]
    omega
  · split
    · simp only [Bool.and_eq_true, decide_eq_true_eq]
      omega
    · simp only [Bool.and_eq_true, decide_eq_true_eq]
      omega

theorem scanFrom_encodeChar (x : Char) (done : List (Option Char)) (s : Bytes) :
    scanFrom done (String.utf8EncodeChar x ++ s) = scanFrom (some x :: done) s := by
  have hrange := code_range x
  unfold String.utf8EncodeChar
  dsimp only
  by_cases h₁ : x.val.toNat ≤ 127
  · rw [if_pos h₁]
    have hchar : Char.ofNat (UInt8.ofNat x.val.toNat).toNat = x := by
      apply ofNat_eq_of_code
      simp only [UInt8.toNat_ofNat']
      omega
    refine (scanFrom_of_one ?_).trans (by rw [hchar]; rfl)
    simp only [UInt8.lt_iff_toNat_lt, UInt8.toNat_ofNat', UInt8.reduceToNat]
    omega
  rw [if_neg h₁]
  by_cases h₂ : x.val.toNat ≤ 2047
  · rw [if_pos h₂]
    have hchar : charOfTwo (UInt8.ofNat (x.val.toNat / 64 % 32 + 192))
        (UInt8.ofNat (x.val.toNat % 64 + 128)) = x := by
      apply ofNat_eq_of_code
      simp only [payload, UInt8.toNat_ofNat']
      omega
    refine (scanFrom_of_two ?_ (isTail_payload _)).trans (by rw [hchar]; rfl)
    simp only [UInt8.le_iff_toNat_le, UInt8.toNat_ofNat', UInt8.reduceToNat]
    omega
  rw [if_neg h₂]
  by_cases h₃ : x.val.toNat ≤ 65535
  · rw [if_pos h₃]
    have hchar : charOfThree (UInt8.ofNat (x.val.toNat / 4096 % 16 + 224))
        (UInt8.ofNat (x.val.toNat / 64 % 64 + 128)) (UInt8.ofNat (x.val.toNat % 64 + 128)) = x := by
      apply ofNat_eq_of_code
      simp only [payload, UInt8.toNat_ofNat']
      omega
    have hsecond := isSecondOfThree_payload (Nat.not_le.mp h₂) h₃ (hrange.imp_right And.left)
    refine (scanFrom_of_three ?_ hsecond (isTail_payload _)).trans (by rw [hchar]; rfl)
    simp only [UInt8.le_iff_toNat_le, UInt8.toNat_ofNat', UInt8.reduceToNat]
    omega
  rw [if_neg h₃]
  have hchar : charOfFour (UInt8.ofNat (x.val.toNat / 262144 % 8 + 240))
      (UInt8.ofNat (x.val.toNat / 4096 % 64 + 128)) (UInt8.ofNat (x.val.toNat / 64 % 64 + 128))
      (UInt8.ofNat (x.val.toNat % 64 + 128)) = x := by
    apply ofNat_eq_of_code
    simp only [payload, UInt8.toNat_ofNat']
    omega
  have hsecond := isSecondOfFour_payload (Nat.not_le.mp h₃) (by omega)
  refine (scanFrom_of_four ?_ hsecond (isTail_payload _) (isTail_payload _)).trans
    (by rw [hchar]; rfl)
  simp only [UInt8.le_iff_toNat_le, UInt8.toNat_ofNat', UInt8.reduceToNat]
  omega

/-! ### Encoded texts -/

theorem scanFrom_encode (text : List Char) (done : List (Option Char)) :
    scanFrom done (encode text) = done.reverse ++ text.map some := by
  induction text generalizing done with
  | nil => simp [encode, scanFrom]
  | cons x text ih =>
    rw [encode, List.flatMap_cons, scanFrom_encodeChar, ← encode, ih]
    simp

@[simp] theorem decode?_encode (text : List Char) : decode? (encode text) = some text := by
  simp [decode?, scan, scanFrom_encode, List.filterMap_map]

@[simp] theorem decodeLossy_encode (text : List Char) : decodeLossy (encode text) = text := by
  rw [decodeLossy, scan, scanFrom_encode, List.reverse_nil, List.nil_append, List.map_map]
  exact List.map_id'' (fun _ => rfl) text

/-! ### What is added at the end -/

theorem mem_scanFrom {part : Option Char} (s : Bytes) (h : part ∈ done) :
    part ∈ scanFrom done s := by
  fun_induction scanFrom done s
  all_goals simp_all

/-- After bytes without malformed parts, reading goes on with the next character. -/
theorem scanFrom_append (s t : Bytes) (h : none ∉ scanFrom done s) :
    scanFrom done (s ++ t) = scanFrom (scanFrom done s).reverse t := by
  fun_induction scanFrom done s with
  | case1 => rw [List.nil_append, List.reverse_reverse]
  | case2 done a s ha ih => exact (scanFrom_of_one ha).trans (ih h)
  | case4 done a _ ha b s hb ih => exact (scanFrom_of_two ha hb).trans (ih h)
  | case8 done a _ _ ha b hb c s hc ih => exact (scanFrom_of_three ha hb hc).trans (ih h)
  | case14 done a _ _ _ ha b hb c hc d s hd ih =>
    exact (scanFrom_of_four ha hb hc hd).trans (ih h)
  -- the bytes end within a character
  | case3 | case6 | case7 | case11 | case12 | case13 =>
    exact absurd (List.mem_reverse.mpr List.mem_cons_self) h
  -- a byte does not continue its character, or begins none
  | case5 | case9 | case10 | case15 | case16 | case17 | case18 =>
    exact absurd (mem_scanFrom _ List.mem_cons_self) h

theorem scanFrom_append_done (done earlier : List (Option Char)) (s : Bytes) :
    scanFrom (done ++ earlier) s = earlier.reverse ++ scanFrom done s := by
  fun_induction scanFrom done s
  case case1 => rw [scanFrom, List.reverse_append]
  all_goals
    rw [scanFrom.eq_def]
    simp_all [-UInt8.not_lt, -not_and]

theorem scanFrom_eq_append (done : List (Option Char)) (s : Bytes) :
    scanFrom done s = done.reverse ++ scan s :=
  scanFrom_append_done [] done s

theorem decodeLossy_append (s t : Bytes) (h : none ∉ scan s) :
    decodeLossy (s ++ t) = decodeLossy s ++ decodeLossy t := by
  rw [decodeLossy, scan, scanFrom_append s t h, scanFrom_eq_append, List.reverse_reverse,
    List.map_append]
  rfl

/-! ### Bytes that are characters -/

theorem isTail_of_lt (h : b < 0x80) : isTail b = false := by
  rw [isTail, Bool.and_eq_false_iff, decide_eq_false_iff_not]
  exact .inl (UInt8.not_le.mpr h)

theorem isSecondOfThree_of_lt (h : b < 0x80) (a : UInt8) : isSecondOfThree a b = false := by
  have hA0 : ¬ (0xA0 : UInt8) ≤ b := UInt8.not_le.mpr (UInt8.lt_trans h (by decide))
  have h80 : ¬ (0x80 : UInt8) ≤ b := UInt8.not_le.mpr h
  simp [isSecondOfThree, isTail_of_lt h, hA0, h80]

theorem isSecondOfFour_of_lt (h : b < 0x80) (a : UInt8) : isSecondOfFour a b = false := by
  have h90 : ¬ (0x90 : UInt8) ≤ b := UInt8.not_le.mpr (UInt8.lt_trans h (by decide))
  have h80 : ¬ (0x80 : UInt8) ≤ b := UInt8.not_le.mpr h
  simp [isSecondOfFour, isTail_of_lt h, h90, h80]

theorem mem_scanFrom_of_lt (h : b < 0x80) (hb : b ∈ s) :
    some (Char.ofNat b.toNat) ∈ scanFrom done s := by
  have htail := isTail_of_lt h
  have hthree := isSecondOfThree_of_lt h
  have hfour := isSecondOfFour_of_lt h
  fun_induction scanFrom done s with
  | case1 => cases hb
  | case2 done a s ha ih =>
    obtain rfl | hs := List.mem_cons.mp hb
    · exact mem_scanFrom s List.mem_cons_self
    · exact ih hs
  -- the byte neither begins a longer character nor goes on with one, so it stands behind
  | _ => grind

/-- A malformed part never takes in a byte that is a character by itself. -/
theorem mem_decodeLossy_of_lt (h : b < 0x80) (hb : b ∈ s) :
    Char.ofNat b.toNat ∈ decodeLossy s :=
  List.mem_map.mpr ⟨_, mem_scanFrom_of_lt h hb, rfl⟩

end HostAlert.Text.Utf8
