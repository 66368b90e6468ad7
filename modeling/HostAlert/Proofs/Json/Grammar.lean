import HostAlert.Json.Skip

/-!
# The grammar of JSON texts

What a JSON text may be, as relations on bytes: `Spells` relates the code points of a string to the
ways to write it, `IsNumber` and `IsValue` say which bytes are a number or a value, and `IsObject`
relates an object to its members. A string may hold surrogates that are not paired.
-/

namespace HostAlert.Json

def Blank (s : Bytes) : Prop := ∀ b ∈ s, isSpace b = true

def isSurrogate (n : Nat) : Bool :=
  isHighSurrogate n || isLowSurrogate n

def pairedCode (high low : Nat) : Nat :=
  (high - 0xD800) * 0x400 + (low - 0xDC00) + 0x10000

/-- The bytes start with the escape of a low surrogate. -/
def StartsLow (s : Bytes) : Prop :=
  ∃ h₁ h₂ h₃ h₄ n rest, s = 0x5C :: byte 'u' :: h₁ :: h₂ :: h₃ :: h₄ :: rest ∧
    hexUnit? h₁ h₂ h₃ h₄ = some n ∧ isLowSurrogate n = true

/-- The bytes between the quotes of a string, with the code points that they stand for. -/
inductive Spells : List Nat → Bytes → Prop
  | nil : Spells [] []
  /-- A character that stands for itself. -/
  | plain (c : Char) (printable : 0x20 ≤ c.toNat) (quote : c.toNat ≠ 0x22) (slash : c.toNat ≠ 0x5C)
      {points : List Nat} {s : Bytes} (rest : Spells points s) :
      Spells (c.toNat :: points) (String.utf8EncodeChar c ++ s)
  /-- A backslash and a letter. -/
  | letter (e b : UInt8) (known : escaped? e = some b) {points : List Nat} {s : Bytes}
      (rest : Spells points s) : Spells (b.toNat :: points) (0x5C :: e :: s)
  /-- The number of a code point. That of a high surrogate makes a pair with the next one if it is
  that of a low one. -/
  | unit (h₁ h₂ h₃ h₄ : UInt8) (n : Nat) (hex : hexUnit? h₁ h₂ h₃ h₄ = some n) {points : List Nat}
      {s : Bytes} (alone : isHighSurrogate n = true → ¬ StartsLow s) (rest : Spells points s) :
      Spells (n :: points) (0x5C :: byte 'u' :: h₁ :: h₂ :: h₃ :: h₄ :: s)
  /-- The numbers of a pair of surrogates. -/
  | pair (h₁ h₂ h₃ h₄ l₁ l₂ l₃ l₄ : UInt8) (high low : Nat) (hex : hexUnit? h₁ h₂ h₃ h₄ = some high)
      (isHigh : isHighSurrogate high = true) (hex' : hexUnit? l₁ l₂ l₃ l₄ = some low)
      (isLow : isLowSurrogate low = true) {points : List Nat} {s : Bytes} (rest : Spells points s) :
      Spells (pairedCode high low :: points)
        (0x5C :: byte 'u' :: h₁ :: h₂ :: h₃ :: h₄ ::
          0x5C :: byte 'u' :: l₁ :: l₂ :: l₃ :: l₄ :: s)

/-! ### Numbers -/

structure IsDigits (s : Bytes) : Prop where
  some : s ≠ []
  digits : ∀ b ∈ s, isDigit b = true

/-- The digits before the point: a zero, or digits that start with another one. -/
inductive IsWhole : Bytes → Prop
  | zero : IsWhole [byte '0']
  | digits {s : Bytes} (h : IsDigits s) (first : s.head? ≠ some (byte '0')) : IsWhole s

inductive IsFraction : Bytes → Prop
  | none : IsFraction []
  | point {s : Bytes} (h : IsDigits s) : IsFraction (byte '.' :: s)

inductive IsSign : Bytes → Prop
  | none : IsSign []
  | plus : IsSign [byte '+']
  | minus : IsSign [byte '-']

inductive IsPower : Bytes → Prop
  | none : IsPower []
  | exponent {e : UInt8} (letter : e = byte 'e' ∨ e = byte 'E') {sign s : Bytes}
      (signed : IsSign sign) (h : IsDigits s) : IsPower (e :: (sign ++ s))

inductive IsNumber : Bytes → Prop
  | positive {whole fraction power : Bytes} (h : IsWhole whole) (hf : IsFraction fraction)
      (hp : IsPower power) : IsNumber (whole ++ (fraction ++ power))
  | negative {whole fraction power : Bytes} (h : IsWhole whole) (hf : IsFraction fraction)
      (hp : IsPower power) : IsNumber (byte '-' :: (whole ++ (fraction ++ power)))

/-! ### Values -/

def Bracket.opening : Bracket → UInt8
  | square => 0x5B
  | curly => 0x7B

/-- What a list or an object holds: a value, with its name in an object. -/
structure Item where
  name : List Nat
  value : Bytes

/-- The bytes before the value of an item. -/
inductive IsLabel : Bracket → List Nat → Bytes → Prop
  | square : IsLabel .square [] []
  | curly {name : List Nat} {s gap lead : Bytes} (h : Spells name s) (hgap : Blank gap)
      (hlead : Blank lead) :
      IsLabel .curly name (0x22 :: (s ++ 0x22 :: (gap ++ byte ':' :: lead)))

mutual

inductive IsValue : Bytes → Prop
  | null : IsValue (utf8 "null")
  | yes : IsValue (utf8 "true")
  | no : IsValue (utf8 "false")
  | number {s : Bytes} (h : IsNumber s) : IsValue s
  | text {points : List Nat} {s : Bytes} (h : Spells points s) :
      IsValue (0x22 :: (s ++ [0x22]))
  | empty (bracket : Bracket) {s : Bytes} (h : Blank s) :
      IsValue (bracket.opening :: (s ++ [bracket.closing]))
  | items (bracket : Bracket) {lead s : Bytes} {items : List Item} (hlead : Blank lead)
      (h : IsItems bracket items s) :
      IsValue (bracket.opening :: (lead ++ (s ++ [bracket.closing])))

inductive IsItems : Bracket → List Item → Bytes → Prop
  | last {bracket : Bracket} {name : List Nat} {label value trail : Bytes}
      (hlabel : IsLabel bracket name label) (hvalue : IsValue value) (htrail : Blank trail) :
      IsItems bracket [⟨name, value⟩] (label ++ (value ++ trail))
  | more {bracket : Bracket} {name : List Nat} {label value trail lead s : Bytes}
      {items : List Item} (hlabel : IsLabel bracket name label) (hvalue : IsValue value)
      (htrail : Blank trail) (hlead : Blank lead) (rest : IsItems bracket items s) :
      IsItems bracket (⟨name, value⟩ :: items)
        (label ++ (value ++ (trail ++ byte ',' :: (lead ++ s))))

end

inductive IsObject : List Item → Bytes → Prop
  | empty {s : Bytes} (h : Blank s) : IsObject [] (0x7B :: (s ++ [0x7D]))
  | items {lead s : Bytes} {members : List Item} (hlead : Blank lead)
      (h : IsItems .curly members s) : IsObject members (0x7B :: (lead ++ (s ++ [0x7D])))

theorem IsObject.isValue {members : List Item} {s : Bytes} (h : IsObject members s) :
    IsValue s := by
  cases h with
  | empty h => exact .empty .curly h
  | items hlead h => exact .items .curly hlead h

def codes (s : String) : List Nat :=
  s.toList.map Char.toNat

/-! ### How values begin -/

/-- Neither white space nor the end of a list or an object. -/
def begins (b : UInt8) : Bool :=
  !isSpace b && b != 0x5D && b != 0x7D

theorem IsDigits.head {s : Bytes} (h : IsDigits s) : ∃ b t, s = b :: t ∧ isDigit b = true := by
  cases s with
  | nil => exact (h.some rfl).elim
  | cons b t => exact ⟨b, t, rfl, h.digits b List.mem_cons_self⟩

theorem IsWhole.head {s : Bytes} (h : IsWhole s) : ∃ b t, s = b :: t ∧ isDigit b = true := by
  cases h with
  | zero => exact ⟨byte '0', [], rfl, rfl⟩
  | digits h => exact h.head

theorem begins_of_isDigit {b : UInt8} (h : isDigit b = true) : begins b = true := by
  revert h
  simp only [isDigit, begins, isSpace, Bool.and_eq_true, decide_eq_true_eq, UInt8.le_iff_toNat_le,
    bne_iff_ne, Bool.not_eq_true', Bool.or_eq_false_iff, beq_eq_false_iff_ne, ne_eq,
    ← UInt8.toNat_inj, UInt8.reduceToNat]
  omega

theorem IsNumber.head {s : Bytes} (h : IsNumber s) :
    ∃ b t, s = b :: t ∧ (b = byte '-' ∨ isDigit b = true) := by
  cases h with
  | positive h =>
    obtain ⟨b, t, rfl, hb⟩ := h.head
    exact ⟨b, _, rfl, .inr hb⟩
  | negative h => exact ⟨byte '-', _, rfl, .inl rfl⟩

theorem IsValue.head {s : Bytes} (h : IsValue s) : ∃ b t, s = b :: t ∧ begins b = true := by
  cases h with
  | null | yes | no => exact ⟨_, _, rfl, rfl⟩
  | number h =>
    obtain ⟨b, t, rfl, rfl | hb⟩ := h.head
    · exact ⟨_, t, rfl, rfl⟩
    · exact ⟨b, t, rfl, begins_of_isDigit hb⟩
  | text => exact ⟨_, _, rfl, rfl⟩
  | empty bracket | items bracket => cases bracket <;> exact ⟨_, _, rfl, rfl⟩

theorem IsItems.head {bracket : Bracket} {items : List Item} {s : Bytes}
    (h : IsItems bracket items s) : ∃ b t, s = b :: t ∧ begins b = true := by
  have first {name : List Nat} {label value : Bytes} (rest : Bytes)
      (hlabel : IsLabel bracket name label) (hvalue : IsValue value) :
      ∃ b t, label ++ (value ++ rest) = b :: t ∧ begins b = true := by
    cases hlabel with
    | square =>
      obtain ⟨b, t, rfl, hb⟩ := hvalue.head
      exact ⟨b, t ++ rest, rfl, hb⟩
    | curly => exact ⟨0x22, _, rfl, rfl⟩
  cases h with
  | last hlabel hvalue => exact first _ hlabel hvalue
  | more hlabel hvalue => exact first _ hlabel hvalue

end HostAlert.Json
