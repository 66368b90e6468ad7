import Mathlib.Data.List.TakeWhile
import HostAlert.Proofs.Json.Grammar

/-!
# Passing over what is well formed

`skip` passes over every value of the grammar (`skip_value`), given that what follows cannot
belong to it (`Ends`). A value inside others takes at most two steps for each of its bytes
(`Passes`), which is what the fuel of `skip` allows.
-/

namespace HostAlert.Json

/-- What may follow a value: nothing, white space, a comma, or the end of a list or an object. -/
def Ends (s : Bytes) : Prop :=
  ∀ b ∈ s.head?, isSpace b = true ∨ b = byte ',' ∨ b = 0x5D ∨ b = 0x7D

/-! ### White space -/

theorem Blank.nil : Blank [] := nofun

theorem skipSpace_blank {lead : Bytes} (h : Blank lead) (s : Bytes) :
    skipSpace (lead ++ s) = skipSpace s := by
  rw [skipSpace, List.dropWhile_append_of_pos h, skipSpace]

theorem skipSpace_of_begins {b : UInt8} (h : begins b = true) (s : Bytes) :
    skipSpace (b :: s) = b :: s := by
  simp only [begins, Bool.and_eq_true, Bool.not_eq_true'] at h
  rw [skipSpace, List.dropWhile_cons, h.1.1, if_neg Bool.false_ne_true]

theorem skipSpace_to {lead : Bytes} (h : Blank lead) {b : UInt8} (hb : isSpace b = false)
    (s : Bytes) : skipSpace (lead ++ b :: s) = b :: s := by
  rw [skipSpace_blank h, skipSpace, List.dropWhile_cons, hb, if_neg Bool.false_ne_true]

theorem ends_of_blank {trail : Bytes} (h : Blank trail) {s : Bytes} (hs : Ends s) :
    Ends (trail ++ s) := by
  cases trail with
  | nil => exact hs
  | cons b t =>
    intro c hc
    cases hc
    exact .inl (h b List.mem_cons_self)

theorem ends_comma (s : Bytes) : Ends (byte ',' :: s) := by
  intro b hb
  cases hb
  exact .inr (.inl rfl)

theorem ends_closing (bracket : Bracket) (s : Bytes) : Ends (bracket.closing :: s) := by
  intro b hb
  cases hb
  cases bracket with
  | square => exact .inr (.inr (.inl rfl))
  | curly => exact .inr (.inr (.inr rfl))

/-! ### Words -/

theorem word_append (w s : Bytes) : word w (w ++ s) = .ok s := by
  induction w with
  | nil => rfl
  | cons b w ih => rw [List.cons_append, word, if_pos rfl, ih]

/-! ### Strings -/

def isPlain (b : UInt8) : Bool :=
  b != 0x22 && !(b < 0x20) && b != 0x5C

theorem isPlain_iff {b : UInt8} :
    isPlain b = true ↔ b.toNat ≠ 0x22 ∧ 0x20 ≤ b.toNat ∧ b.toNat ≠ 0x5C := by
  simp only [isPlain, Bool.and_eq_true, bne_iff_ne, Bool.not_eq_true', decide_eq_false_iff_not,
    UInt8.lt_iff_toNat_lt, ne_eq, ← UInt8.toNat_inj, UInt8.reduceToNat, and_assoc, Nat.not_lt]

theorem isPlain_of_mem {c : Char} (printable : 0x20 ≤ c.toNat) (quote : c.toNat ≠ 0x22)
    (slash : c.toNat ≠ 0x5C) {b : UInt8} (hb : b ∈ String.utf8EncodeChar c) :
    isPlain b = true := by
  have hc : c.toNat = c.val.toNat := rfl
  rw [hc] at printable quote slash
  rw [isPlain_iff]
  unfold String.utf8EncodeChar at hb
  dsimp only at hb
  split at hb
  · obtain rfl := List.mem_singleton.mp hb
    simp only [UInt8.toNat_ofNat']
    omega
  · -- the bytes of longer characters are all above the ASCII range
    have hbig : 0x80 ≤ b.toNat := by
      split at hb
      · simp only [List.mem_cons, List.not_mem_nil, or_false] at hb
        obtain rfl | rfl := hb <;> simp only [UInt8.toNat_ofNat'] <;> omega
      · split at hb
        · simp only [List.mem_cons, List.not_mem_nil, or_false] at hb
          obtain rfl | rfl | rfl := hb <;> simp only [UInt8.toNat_ofNat'] <;> omega
        · simp only [List.mem_cons, List.not_mem_nil, or_false] at hb
          obtain rfl | rfl | rfl | rfl := hb <;> simp only [UInt8.toNat_ofNat'] <;> omega
    omega

theorem skipText_plain {s : Bytes} (h : ∀ b ∈ s, isPlain b = true) (t : Bytes) :
    skipText (s ++ t) = skipText t := by
  induction s with
  | nil => rfl
  | cons b s ih =>
    have hb := isPlain_iff.mp (h b List.mem_cons_self)
    have hquote : b ≠ 0x22 := fun heq => hb.1 (by rw [heq]; rfl)
    have hcontrol : ¬ b < 0x20 := by
      rw [UInt8.lt_iff_toNat_lt]
      exact Nat.not_lt.mpr hb.2.1
    have hslash : b ≠ 0x5C := fun heq => hb.2.2 (by rw [heq]; rfl)
    rw [List.cons_append, skipText.eq_def]
    simp only [hquote, hcontrol, hslash, ne_eq, not_false_eq_true, if_true, if_false]
    exact ih fun b hb => h b (List.mem_cons_of_mem _ hb)

theorem escaped?_ne_u {e b : UInt8} (h : escaped? e = some b) : e ≠ byte 'u' := by
  rintro rfl
  cases h

theorem skipText_letter {e b : UInt8} (h : escaped? e = some b) (s : Bytes) :
    skipText (0x5C :: e :: s) = skipText s := by
  have he := escaped?_ne_u h
  rw [skipText.eq_def]
  simp [he, h]

theorem skipText_unit {h₁ h₂ h₃ h₄ : UInt8} {n : Nat} (h : hexUnit? h₁ h₂ h₃ h₄ = some n)
    (s : Bytes) : skipText (0x5C :: byte 'u' :: h₁ :: h₂ :: h₃ :: h₄ :: s) = skipText s := by
  rw [skipText.eq_def]
  simp [h]

theorem skipText_spelled {points : List Nat} {s : Bytes} (h : Spells points s) (rest : Bytes) :
    skipText (s ++ 0x22 :: rest) = .ok rest := by
  induction h with
  | nil =>
    rw [List.nil_append, skipText.eq_def]
    rfl
  | plain c printable quote slash _ ih =>
    rw [List.append_assoc, skipText_plain fun b => isPlain_of_mem printable quote slash]
    exact ih
  | letter e b known _ ih =>
    simp only [List.cons_append]
    rw [skipText_letter known]
    exact ih
  | unit h₁ h₂ h₃ h₄ n hex _ _ ih =>
    simp only [List.cons_append]
    rw [skipText_unit hex]
    exact ih
  | pair h₁ h₂ h₃ h₄ l₁ l₂ l₃ l₄ high low hex _ hex' _ _ ih =>
    simp only [List.cons_append]
    rw [skipText_unit hex, skipText_unit hex']
    exact ih

/-! ### Numbers -/

def NoDigit (s : Bytes) : Prop :=
  ∀ b ∈ s.head?, isDigit b = false

theorem someDigits_append {s : Bytes} (h : IsDigits s) {rest : Bytes} (hrest : NoDigit rest) :
    someDigits (s ++ rest) = .ok (digitsOf s, rest) := by
  have htake : (s ++ rest).takeWhile isDigit = s.takeWhile isDigit := by
    rw [List.takeWhile_append_of_pos h.digits, List.takeWhile_eq_self_iff.mpr h.digits]
    cases rest with
    | nil => simp
    | cons b t => simp [hrest b rfl]
  have hdrop : (s ++ rest).dropWhile isDigit = rest := by
    rw [List.dropWhile_append_of_pos h.digits]
    cases rest with
    | nil => rfl
    | cons b t => rw [List.dropWhile_cons, hrest b rfl, if_neg Bool.false_ne_true]
  obtain ⟨b, t, rfl, hb⟩ := h.head
  rw [List.cons_append] at htake hdrop ⊢
  rw [someDigits.eq_def]
  simp only [hb, if_true, digitsOf, afterDigits, htake, hdrop]

theorem leadingDigits_append {s : Bytes} (h : IsWhole s) {rest : Bytes} (hrest : NoDigit rest) :
    leadingDigits (s ++ rest) = .ok (digitsOf s, rest) := by
  cases h with
  | zero =>
    have hzero : IsDigits [byte '0'] := ⟨nofun, by simp [isDigit, byte]⟩
    rw [leadingDigits, someDigits_append hzero hrest]
    rfl
  | digits h first =>
    obtain ⟨b, t, rfl, hb⟩ := h.head
    have hne : (digitsOf (b :: t)).head? ≠ some 0 := by
      intro heq
      have hcode : b.toNat - 0x30 = 0 := by
        simpa [digitsOf, hb] using heq
      simp only [isDigit, Bool.and_eq_true, decide_eq_true_eq, UInt8.le_iff_toNat_le,
        UInt8.reduceToNat] at hb
      refine first (congrArg some (UInt8.toNat_inj.mp ?_))
      show b.toNat = 0x30
      omega
    rw [leadingDigits, someDigits_append h hrest]
    simp only [bind, Except.bind, hne, false_and, if_false]

theorem fraction_append {s : Bytes} (h : IsFraction s) : ∃ digits, ∀ {rest : Bytes}, NoDigit rest →
    rest.head? ≠ some (byte '.') → fraction (s ++ rest) = .ok (digits, rest) := by
  cases h with
  | none =>
    refine ⟨none, fun {rest} hrest hpoint => ?_⟩
    cases rest with
    | nil => rfl
    | cons b t =>
      have hb : b ≠ byte '.' := fun heq => hpoint (congrArg some heq)
      rw [List.nil_append, fraction.eq_def]
      simp only [hb, if_false]
  | @point s h =>
    refine ⟨some (digitsOf s), fun {rest} hrest _ => ?_⟩
    rw [List.cons_append, fraction.eq_def]
    simp only [if_true, someDigits_append h hrest, bind, Except.bind]

theorem power_append {s : Bytes} (h : IsPower s) : ∃ power', ∀ {rest : Bytes}, NoDigit rest →
    (∀ b ∈ rest.head?, b ≠ byte 'e' ∧ b ≠ byte 'E') → power (s ++ rest) = .ok (power', rest) := by
  cases h with
  | none =>
    refine ⟨none, fun {rest} hrest hletter => ?_⟩
    cases rest with
    | nil => rfl
    | cons b t =>
      obtain ⟨he, hE⟩ := hletter b rfl
      rw [List.nil_append, power.eq_def]
      simp only [he, hE, or_self, if_false]
  | @exponent e letter sign s signed h =>
    cases signed with
    | plus =>
      refine ⟨some (natOfDigits (digitsOf s) : Int), fun {rest} hrest _ => ?_⟩
      rw [List.cons_append, power.eq_def]
      simp only [letter, if_true]
      simp [someDigits_append h hrest, bind, Except.bind, byte]
    | minus =>
      refine ⟨some (-(natOfDigits (digitsOf s) : Int)), fun {rest} hrest _ => ?_⟩
      rw [List.cons_append, power.eq_def]
      simp only [letter, if_true]
      simp [someDigits_append h hrest, bind, Except.bind, byte]
    | none =>
      obtain ⟨b, t, rfl, hb⟩ := h.head
      have hplus : b ≠ byte '+' := by
        rintro rfl
        cases hb
      have hminus : b ≠ byte '-' := by
        rintro rfl
        cases hb
      refine ⟨some (natOfDigits (digitsOf (b :: t)) : Int), fun {rest} hrest _ => ?_⟩
      have hdigits := someDigits_append h hrest
      rw [List.cons_append] at hdigits
      simp [power.eq_def, letter, hplus, hminus, hdigits, bind, Except.bind]

theorem Ends.after_number {s : Bytes} (h : Ends s) : ∀ b ∈ s.head?, isDigit b = false ∧
    b ≠ byte '.' ∧ b ≠ byte 'e' ∧ b ≠ byte 'E' := by
  intro b hb
  obtain hspace | rfl | rfl | rfl := h b hb
  · simp only [isSpace, Bool.or_eq_true, beq_iff_eq] at hspace
    obtain ((rfl | rfl) | rfl) | rfl := hspace <;> decide
  all_goals decide

theorem IsPower.noDigit {s rest : Bytes} (h : IsPower s) (hrest : Ends rest) :
    NoDigit (s ++ rest) ∧ (s ++ rest).head? ≠ some (byte '.') := by
  cases h with
  | none =>
    refine ⟨fun b hb => (hrest.after_number b hb).1, fun heq => ?_⟩
    exact (hrest.after_number _ heq).2.1 rfl
  | exponent letter =>
    obtain rfl | rfl := letter
    · exact ⟨fun b hb => by cases hb; rfl, by simp [byte]⟩
    · exact ⟨fun b hb => by cases hb; rfl, by simp [byte]⟩

theorem IsFraction.noDigit {s rest : Bytes} (h : IsFraction s) (hrest : NoDigit rest) :
    NoDigit (s ++ rest) := by
  cases h with
  | none => exact hrest
  | point =>
    intro b hb
    cases hb
    rfl

theorem numeral_append {s : Bytes} (h : IsNumber s) :
    ∃ v, ∀ {rest : Bytes}, Ends rest → numeral (s ++ rest) = .ok (v, rest) := by
  -- the three parts after the sign
  have parts {whole frac pow : Bytes} (hw : IsWhole whole) (hf : IsFraction frac)
      (hp : IsPower pow) : ∃ frac' pow', ∀ {rest : Bytes}, Ends rest →
        leadingDigits (whole ++ (frac ++ (pow ++ rest))) =
          .ok (digitsOf whole, frac ++ (pow ++ rest)) ∧
        fraction (frac ++ (pow ++ rest)) = .ok (frac', pow ++ rest) ∧
        power (pow ++ rest) = .ok (pow', rest) := by
    obtain ⟨frac', hfrac⟩ := fraction_append hf
    obtain ⟨pow', hpow⟩ := power_append hp
    refine ⟨frac', pow', fun {rest} hrest => ?_⟩
    obtain ⟨hdigit, hpoint⟩ := hp.noDigit hrest
    exact ⟨leadingDigits_append hw (hf.noDigit hdigit), hfrac hdigit hpoint,
      hpow (fun b hb => (hrest.after_number b hb).1) fun b hb => (hrest.after_number b hb).2.2⟩
  cases h with
  | @positive whole frac pow hw hf hp =>
    obtain ⟨frac', pow', hparts⟩ := parts hw hf hp
    obtain ⟨b, t, rfl, hb⟩ := hw.head
    have hminus : b ≠ byte '-' := by
      rintro rfl
      cases hb
    refine ⟨⟨false, digitsOf (b :: t), frac', pow'⟩, fun {rest} hrest => ?_⟩
    obtain ⟨hwhole, hfrac, hpow⟩ := hparts hrest
    simp only [List.append_assoc, List.cons_append] at hwhole ⊢
    simp [numeral, hminus, hwhole, hfrac, hpow, bind, Except.bind]
  | @negative whole frac pow hw hf hp =>
    obtain ⟨frac', pow', hparts⟩ := parts hw hf hp
    refine ⟨⟨true, digitsOf whole, frac', pow'⟩, fun {rest} hrest => ?_⟩
    obtain ⟨hwhole, hfrac, hpow⟩ := hparts hrest
    simp [numeral, hwhole, hfrac, hpow, bind, Except.bind]

theorem skipNumber_append {s : Bytes} (h : IsNumber s) {rest : Bytes} (hrest : Ends rest) :
    skipNumber (s ++ rest) = .ok rest := by
  obtain ⟨v, hv⟩ := numeral_append h
  rw [skipNumber, hv hrest]

/-! ### Values -/

/-- A value inside any open brackets is passed over, in at most two steps for each byte. -/
def Passes (v : Bytes) : Prop :=
  ∃ n ≤ 2 * v.length, ∀ (fuel : Nat) (stack : List Bracket) (lead rest : Bytes), Blank lead →
    Ends rest → skipWithin (fuel + n) .value stack (lead ++ (v ++ rest)) =
      skipWithin fuel .next stack rest

/-- So are the items before a closing bracket. -/
def PassesItems (bracket : Bracket) (s : Bytes) : Prop :=
  ∃ n ≤ 2 * s.length + 1, ∀ (fuel : Nat) (stack : List Bracket) (lead rest : Bytes), Blank lead →
    ∃ s', skipItemName bracket (lead ++ (s ++ bracket.closing :: rest)) = .ok s' ∧
      skipWithin (fuel + n) .value (bracket :: stack) s' = skipWithin fuel .next stack rest

theorem passes_scalar {b : UInt8} {t : Bytes} (hb : begins b = true) (square : b ≠ 0x5B)
    (curly : b ≠ 0x7B) (h : ∀ rest, Ends rest → skipScalar (b :: t ++ rest) = .ok rest) :
    Passes (b :: t) := by
  refine ⟨1, by rw [List.length_cons]; omega, fun fuel stack lead rest hlead hrest => ?_⟩
  have hscalar := h rest hrest
  rw [List.cons_append] at hscalar ⊢
  rw [skipWithin, skipSpace_blank hlead, skipSpace_of_begins hb]
  simp only [square, curly, if_false, hscalar]

theorem passes_word {b : UInt8} {w : Bytes} (h : b = byte 'n' ∧ w = utf8 "ull" ∨
    b = byte 't' ∧ w = utf8 "rue" ∨ b = byte 'f' ∧ w = utf8 "alse") : Passes (b :: w) := by
  obtain ⟨rfl, rfl⟩ | ⟨rfl, rfl⟩ | ⟨rfl, rfl⟩ := h
  all_goals
    refine passes_scalar (by decide) (by decide) (by decide) fun rest _ => ?_
    exact word_append _ rest

theorem passes_number {s : Bytes} (h : IsNumber s) : Passes s := by
  obtain ⟨b, t, rfl, hb⟩ := h.head
  have hdigit : b = byte '-' ∨ 0x30 ≤ b.toNat ∧ b.toNat ≤ 0x39 := by
    simpa [isDigit, UInt8.le_iff_toNat_le] using hb
  have hne : ∀ n : UInt8, n ≠ byte '-' → n.toNat < 0x30 ∨ 0x39 < n.toNat → b ≠ n := by
    rintro n hminus hout rfl
    obtain heq | hin := hdigit
    · exact hminus heq
    · omega
  have hbegins : begins b = true := by
    obtain rfl | hb := hb
    · rfl
    · exact begins_of_isDigit hb
  refine passes_scalar hbegins (hne _ (by decide) (by decide)) (hne _ (by decide) (by decide))
    fun rest hrest => ?_
  have hskip := skipNumber_append h hrest
  rw [List.cons_append] at hskip ⊢
  simp only [skipScalar, hne (byte 'n') (by decide) (by decide),
    hne (byte 't') (by decide) (by decide), hne (byte 'f') (by decide) (by decide),
    hne 0x22 (by decide) (by decide), hb, if_true, if_false, hskip]

theorem passes_text {points : List Nat} {s : Bytes} (h : Spells points s) :
    Passes (0x22 :: (s ++ [0x22])) := by
  refine passes_scalar (by decide) (by decide) (by decide) fun rest _ => ?_
  show skipText (s ++ [0x22] ++ rest) = .ok rest
  rw [List.append_assoc]
  exact skipText_spelled h rest

theorem skipWithin_opening (bracket : Bracket) (fuel : Nat) (stack : List Bracket)
    {lead : Bytes} (hlead : Blank lead) (s : Bytes) :
    skipWithin (fuel + 1) .value stack (lead ++ bracket.opening :: s) =
      skipWithin fuel .first (bracket :: stack) s := by
  cases bracket with
  | square =>
    rw [skipWithin, skipSpace_to hlead (by decide)]
    rfl
  | curly =>
    rw [skipWithin, skipSpace_to hlead (by decide)]
    rfl

theorem Bracket.closing_not_space (bracket : Bracket) : isSpace bracket.closing = false := by
  cases bracket <;> rfl

theorem Bracket.closing_ne (bracket : Bracket) {b : UInt8} (hb : begins b = true) :
    b ≠ bracket.closing := by
  rintro rfl
  cases bracket <;> cases hb

theorem passes_empty (bracket : Bracket) {s : Bytes} (h : Blank s) :
    Passes (bracket.opening :: (s ++ [bracket.closing])) := by
  refine ⟨2, by simp only [List.length_cons, List.length_append]; omega,
    fun fuel stack lead rest hlead _ => ?_⟩
  rw [List.cons_append, List.append_assoc, List.singleton_append,
    skipWithin_opening bracket (fuel + 1) stack hlead, skipWithin.eq_def]
  simp only [skipSpace_to h bracket.closing_not_space, if_true]

theorem passes_items (bracket : Bracket) {lead s : Bytes} {items : List Item} (hlead : Blank lead)
    (h : IsItems bracket items s) (passes : PassesItems bracket s) :
    Passes (bracket.opening :: (lead ++ (s ++ [bracket.closing]))) := by
  obtain ⟨n, hn, hpass⟩ := passes
  refine ⟨n + 2, by simp only [List.length_cons, List.length_append, List.length_nil]; omega,
    fun fuel stack lead' rest hlead' _ => ?_⟩
  obtain ⟨s', hname, hvalue⟩ := hpass fuel stack [] rest .nil
  obtain ⟨b, t, rfl, hb⟩ := h.head
  simp only [List.nil_append, List.cons_append] at hname
  simp only [List.cons_append, List.append_assoc, List.nil_append]
  rw [show fuel + (n + 2) = fuel + n + 1 + 1 by omega, skipWithin_opening bracket _ _ hlead',
    skipWithin.eq_def]
  simp only [skipSpace_blank hlead, skipSpace_of_begins hb, bracket.closing_ne hb, if_false, hname]
  exact hvalue

theorem skipItemName_label {bracket : Bracket} {name : List Nat} {label : Bytes}
    (h : IsLabel bracket name label) {lead : Bytes} (hlead : Blank lead) (s : Bytes) :
    ∃ lead', Blank lead' ∧ skipItemName bracket (lead ++ (label ++ s)) = .ok (lead' ++ s) := by
  cases h with
  | square => exact ⟨lead, hlead, rfl⟩
  | @curly _ content gap lead' hspells hgap hlead' =>
    refine ⟨lead', hlead', ?_⟩
    have htext := skipText_spelled hspells (gap ++ byte ':' :: (lead' ++ s))
    have hcolon : colon (gap ++ byte ':' :: (lead' ++ s)) = .ok (lead' ++ s) := by
      rw [colon, skipSpace_to hgap (by decide)]
      rfl
    simp only [List.cons_append, List.append_assoc]
    rw [skipItemName, skipName, skipSpace_to hlead (by decide)]
    simp only [if_true, htext, bind, Except.bind, hcolon]

theorem passesItems_last {bracket : Bracket} {name : List Nat} {label value trail : Bytes}
    (hlabel : IsLabel bracket name label) (hvalue : Passes value) (htrail : Blank trail) :
    PassesItems bracket (label ++ (value ++ trail)) := by
  obtain ⟨n, hn, hpass⟩ := hvalue
  refine ⟨n + 1, by simp only [List.length_append]; omega, fun fuel stack lead rest hlead => ?_⟩
  simp only [List.append_assoc]
  obtain ⟨lead', hlead', hname⟩ :=
    skipItemName_label hlabel hlead (value ++ (trail ++ bracket.closing :: rest))
  refine ⟨_, hname, ?_⟩
  have hends := ends_of_blank htrail (ends_closing bracket rest)
  have hcomma : bracket.closing ≠ byte ',' := by cases bracket <;> decide
  rw [show fuel + (n + 1) = fuel + 1 + n by omega, hpass _ _ _ _ hlead' hends, skipWithin,
    skipSpace_to htrail bracket.closing_not_space]
  simp only [hcomma, if_true, if_false]

theorem passesItems_more {bracket : Bracket} {name : List Nat} {label value trail lead s : Bytes}
    (hlabel : IsLabel bracket name label) (hvalue : Passes value) (htrail : Blank trail)
    (hlead : Blank lead) (hrest : PassesItems bracket s) :
    PassesItems bracket (label ++ (value ++ (trail ++ byte ',' :: (lead ++ s)))) := by
  obtain ⟨n, hn, hpass⟩ := hvalue
  obtain ⟨k, hk, hitems⟩ := hrest
  refine ⟨k + 1 + n, by simp only [List.length_append, List.length_cons]; omega,
    fun fuel stack before rest hbefore => ?_⟩
  simp only [List.append_assoc, List.cons_append]
  obtain ⟨lead', hlead', hname⟩ := skipItemName_label hlabel hbefore
    (value ++ (trail ++ byte ',' :: (lead ++ (s ++ bracket.closing :: rest))))
  obtain ⟨s', hname', hitem⟩ := hitems fuel stack lead rest hlead
  refine ⟨_, hname, ?_⟩
  have hends := ends_of_blank htrail (ends_comma (lead ++ (s ++ bracket.closing :: rest)))
  rw [show fuel + (k + 1 + n) = fuel + k + 1 + n by omega, hpass _ _ _ _ hlead' hends, skipWithin,
    skipSpace_to htrail (by decide)]
  simp only [if_true, hname']
  exact hitem

mutual

theorem IsValue.passes {v : Bytes} : IsValue v → Passes v
  | .null => passes_word (.inl ⟨rfl, rfl⟩)
  | .yes => passes_word (.inr (.inl ⟨rfl, rfl⟩))
  | .no => passes_word (.inr (.inr ⟨rfl, rfl⟩))
  | .number h => passes_number h
  | .text h => passes_text h
  | .empty bracket h => passes_empty bracket h
  | .items bracket hlead h => passes_items bracket hlead h h.passes

theorem IsItems.passes {bracket : Bracket} {items : List Item} {s : Bytes} :
    IsItems bracket items s → PassesItems bracket s
  | .last hlabel hvalue htrail => passesItems_last hlabel hvalue.passes htrail
  | .more hlabel hvalue htrail hlead rest =>
    passesItems_more hlabel hvalue.passes htrail hlead rest.passes

end

/-- A value is passed over, however much white space stands before it. -/
theorem skip_value {v : Bytes} (h : IsValue v) {lead rest : Bytes} (hlead : Blank lead)
    (hrest : Ends rest) : skip (lead ++ (v ++ rest)) = .ok rest := by
  obtain ⟨n, hn, hpass⟩ := h.passes
  obtain ⟨fuel, hfuel⟩ : ∃ fuel, 2 * (lead ++ (v ++ rest)).length + 2 = fuel + 1 + n := by
    refine ⟨2 * (lead ++ (v ++ rest)).length + 2 - n - 1, ?_⟩
    simp only [List.length_append]
    omega
  rw [skip, hfuel, hpass (fuel + 1) [] lead rest hlead hrest, skipWithin]

end HostAlert.Json
