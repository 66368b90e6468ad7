/-!
# Blank characters and trimming

`isBlank` is the Unicode property White_Space. `trim` drops the blank characters at both ends of a
text; `trimmed` is the same on strings. A trimmed text is empty exactly when every character of the
text is blank (`trim_eq_nil_iff`).
-/

namespace HostAlert.Text

/-- The code points with the Unicode property White_Space, as closed ranges. -/
def blankRanges : List (Nat × Nat) :=
  [(0x09, 0x0D), (0x20, 0x20), (0x85, 0x85), (0xA0, 0xA0), (0x1680, 0x1680), (0x2000, 0x200A),
    (0x2028, 0x2029), (0x202F, 0x202F), (0x205F, 0x205F), (0x3000, 0x3000)]

example : (blankRanges.map fun r => r.2 - r.1 + 1).sum = 25 := by decide

def isBlank (c : Char) : Bool :=
  blankRanges.any fun r => decide (r.1 ≤ c.toNat) && decide (c.toNat ≤ r.2)

theorem isBlank_of_isWhitespace {c : Char} (h : c.isWhitespace) : isBlank c := by
  simp only [Char.isWhitespace, Bool.or_eq_true, decide_eq_true_eq] at h
  rcases h with ((rfl | rfl) | rfl) | rfl <;> decide

def trimStart (s : List Char) : List Char :=
  s.dropWhile isBlank

def trimEnd (s : List Char) : List Char :=
  (s.reverse.dropWhile isBlank).reverse

/-- The text without the blank characters at its ends. -/
def trim (s : List Char) : List Char :=
  trimEnd (trimStart s)

def trimmed (s : String) : String :=
  String.ofList (trim s.toList)

@[simp] theorem trim_nil : trim [] = [] := rfl

@[simp] theorem toList_trimmed (s : String) : (trimmed s).toList = trim s.toList := by
  simp [trimmed]

theorem trimStart_eq_nil_iff {s : List Char} : trimStart s = [] ↔ ∀ c ∈ s, isBlank c := by
  induction s with
  | nil => simp [trimStart]
  | cons d s ih =>
    by_cases hd : isBlank d
    · rw [trimStart, List.dropWhile_cons_of_pos hd, ← trimStart, ih]
      simp only [List.mem_cons, forall_eq_or_imp, hd, true_and]
    · simp [trimStart, hd]

theorem trimEnd_eq_nil_iff {s : List Char} : trimEnd s = [] ↔ ∀ c ∈ s, isBlank c := by
  have h := trimStart_eq_nil_iff (s := s.reverse)
  simp only [List.mem_reverse] at h
  rw [trimEnd, List.reverse_eq_nil_iff, ← trimStart, h]

theorem trim_eq_nil_iff {s : List Char} : trim s = [] ↔ ∀ c ∈ s, isBlank c := by
  rw [trim, trimEnd_eq_nil_iff]
  constructor
  · intro h
    rw [← trimStart_eq_nil_iff]
    cases hs : trimStart s with
    | nil => rfl
    | cons d t =>
      have hf := List.head?_dropWhile_not isBlank s
      rw [show s.dropWhile isBlank = d :: t from hs] at hf
      simp [h d (by simp [hs])] at hf
  · intro h c hc
    exact h c ((List.dropWhile_suffix _).subset hc)

end HostAlert.Text
