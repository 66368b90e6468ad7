import HostAlert.Codec.FilterUpdate
import HostAlert.Codec.Config
import HostAlert.Proofs.Json.Decoded
import HostAlert.Proofs.Json.Rereading

/-!
# Values alone and among others

A reader is `Steady` if a value that it takes when it stands alone is taken just so among others.
Readers of words, texts and variants look no further than they read (`Extends`); a number goes on as
long as there are digits, and ends where a value may end. All readers of members are steady.
-/

namespace HostAlert.Json

variable {α β : Type}

/-! ### Readers that look no further -/

/-- What the reader takes from the front of some bytes it also takes with white space before them
and with anything behind. -/
def Extends (read : Reader α) : Prop :=
  ∀ (s rest : Bytes) (a : α), read s = .ok (a, rest) →
    ∀ (lead : Bytes), Blank lead → ∀ t, read (lead ++ (s ++ t)) = .ok (a, rest ++ t)

theorem skipSpace_extend {s r : Bytes} {b : UInt8} (h : skipSpace s = b :: r) {lead : Bytes}
    (hlead : Blank lead) (t : Bytes) : skipSpace (lead ++ (s ++ t)) = b :: (r ++ t) := by
  rw [skipSpace_blank hlead, skipSpace, List.dropWhile_append]
  rw [skipSpace] at h
  rw [h]
  rfl

theorem ok_of_head {f : UInt8 → Bytes → Except Fault β} {s : Bytes} {c : β}
    (h : (match skipSpace s with
      | [] => Except.error Fault.truncated
      | b :: r => f b r) = .ok c) : ∃ b r, skipSpace s = b :: r ∧ f b r = .ok c := by
  split at h
  · cases h
  · next b r hs => exact ⟨b, r, hs, h⟩

theorem eq_of_word {w s rest : Bytes} (h : word w s = .ok rest) : s = w ++ rest := by
  induction w generalizing s with
  | nil =>
    cases h
    rfl
  | cons c w ih =>
    cases s with
    | nil => cases h
    | cons b s =>
      rw [word] at h
      split at h
      · next heq => rw [heq, ih h, List.cons_append]
      · cases h

theorem word_extend {w s rest : Bytes} (h : word w s = .ok rest) (t : Bytes) :
    word w (s ++ t) = .ok (rest ++ t) := by
  rw [eq_of_word h, List.append_assoc, word_append]

theorem extends_bool : Extends bool := by
  intro s rest a h lead hlead t
  unfold bool at h ⊢
  obtain ⟨b, r, hs, h⟩ := ok_of_head h
  rw [skipSpace_extend hs hlead]
  dsimp only at h ⊢
  split at h
  · next hb =>
    obtain ⟨rest', hword, heq⟩ := ok_of_map h
    cases heq
    rw [if_pos hb, word_extend hword]
    rfl
  · next hb =>
    split at h
    · next hb' =>
      obtain ⟨rest', hword, heq⟩ := ok_of_map h
      cases heq
      rw [if_neg hb, if_pos hb', word_extend hword]
      rfl
    · cases h

/-! ### Texts -/

theorem contentFrom_extend {done s content rest : Bytes}
    (h : contentFrom done s = .ok (content, rest)) (t : Bytes) :
    contentFrom done (s ++ t) = .ok (content, rest ++ t) := by
  fun_induction contentFrom done s with
  | case2 =>
    cases h
    rw [List.cons_append, contentFrom.eq_def]
    rfl
  | case4 done b s quote control slash ih =>
    rw [List.cons_append, contentFrom.eq_def]
    simp only [quote, control, slash, ne_eq, not_false_eq_true, if_true, if_false]
    exact ih h
  | case7 done b _ _ slash e s hu c known ih =>
    obtain rfl := not_not.mp slash
    rw [List.cons_append, List.cons_append, contentFrom_letter known]
    exact ih h
  | case10 done b _ _ slash u hu h₁ h₂ h₃ h₄ s n hex low high ih =>
    obtain rfl := not_not.mp slash
    obtain rfl := not_not.mp hu
    have alone : isSurrogate n = false := by
      rw [isSurrogate, Bool.or_eq_false_iff]
      exact ⟨(Bool.not_eq_true' _).mp high, Bool.eq_false_iff.mpr low⟩
    simp only [List.cons_append]
    rw [contentFrom_unit hex alone]
    exact ih h
  | case16 done b _ _ slash u hu h₁ h₂ h₃ h₄ high hex low isHigh slash' hslash' u' hu' l₁ l₂ l₃ l₄ s
      n hex' isLow ih =>
    obtain rfl := not_not.mp slash
    obtain rfl := not_not.mp hu
    obtain rfl := not_not.mp hslash'
    obtain rfl := not_not.mp hu'
    have hhigh : isHighSurrogate high = true := by
      rwa [Bool.not_eq_true', Bool.not_eq_false] at isHigh
    simp only [List.cons_append]
    rw [contentFrom_pair hex hhigh hex' isLow]
    exact ih h
  | _ => cases h

theorem text_extend {s rest : Bytes} {a : String} (h : text s = .ok (a, rest)) (t : Bytes) :
    text (s ++ t) = .ok (a, rest ++ t) := by
  obtain ⟨⟨content, rest'⟩, hcontent, hdecode⟩ := ok_of_bind h
  rw [text, contentFrom_extend hcontent]
  dsimp only at hdecode
  split at hdecode
  · next chars hchars =>
    cases hdecode
    simp only [bind, Except.bind, hchars]
  · cases hdecode

theorem extends_string : Extends string := by
  intro s rest a h lead hlead t
  unfold string at h ⊢
  obtain ⟨b, r, hs, h⟩ := ok_of_head h
  rw [skipSpace_extend hs hlead]
  dsimp only at h ⊢
  split at h
  · next hb => rw [if_pos hb, text_extend h]
  · cases h

/-! ### Variants -/

theorem extends_stringOf (convert : String → Option α) : Extends (stringOf convert) := by
  intro s rest a h lead hlead t
  obtain ⟨⟨name, rest'⟩, hstring, hconvert⟩ := ok_of_bind h
  rw [stringOf, extends_string _ _ _ hstring lead hlead]
  dsimp only at hconvert
  split at hconvert
  · next a' hname =>
    cases hconvert
    simp only [bind, Except.bind, hname]
  · cases hconvert

theorem extends_key {read : Reader α} (extend : Extends read) : Extends (key read) := by
  intro s rest a h lead hlead t
  unfold key at h ⊢
  obtain ⟨b, r, hs, h⟩ := ok_of_head h
  rw [skipSpace_extend hs hlead]
  dsimp only at h ⊢
  split at h
  · next hb =>
    rw [if_pos hb]
    exact extend _ _ _ h [] .nil t
  · cases h

theorem colon_extend {s rest : Bytes} (h : colon s = .ok rest) (t : Bytes) :
    colon (s ++ t) = .ok (rest ++ t) := by
  unfold colon at h ⊢
  obtain ⟨b, r, hs, h⟩ := ok_of_head h
  have hskip : skipSpace (s ++ t) = b :: (r ++ t) := skipSpace_extend hs .nil t
  rw [hskip]
  dsimp only at h ⊢
  split at h
  · next hb =>
    cases h
    rw [if_pos hb]
  · cases h

theorem null_extend {s rest : Bytes} (h : null s = .ok rest) (t : Bytes) :
    null (s ++ t) = .ok (rest ++ t) := by
  unfold null at h ⊢
  obtain ⟨b, r, hs, h⟩ := ok_of_head h
  have hskip : skipSpace (s ++ t) = b :: (r ++ t) := skipSpace_extend hs .nil t
  rw [hskip]
  dsimp only at h ⊢
  split at h
  · next hb => rw [if_pos hb, word_extend h]
  · cases h

theorem extends_variant (convert : String → Option α) : Extends (variant convert) := by
  intro s rest a h lead hlead t
  unfold variant at h ⊢
  obtain ⟨b, r, hs, h⟩ := ok_of_head h
  rw [skipSpace_extend hs hlead]
  dsimp only at h ⊢
  split at h
  · next hb =>
    rw [if_pos hb]
    exact extends_stringOf convert _ _ _ h [] .nil t
  · next hb =>
    split at h
    · next hb' =>
      obtain ⟨⟨a', rest₁⟩, hkey, h⟩ := ok_of_bind h
      obtain ⟨rest₂, hvalue, h⟩ := ok_of_bind h
      obtain ⟨rest₃, hcolon, hnull⟩ := ok_of_bind hvalue
      have hkey' : key (stringOf convert) (r ++ t) = .ok (a', rest₁ ++ t) :=
        extends_key (extends_stringOf convert) _ _ _ hkey [] .nil t
      rw [if_neg hb, if_pos hb', hkey']
      simp only [bind, Except.bind, colon_extend hcolon, null_extend hnull]
      dsimp only at h
      obtain ⟨c, rest', hend, h⟩ := ok_of_head h
      have hend' : skipSpace (rest₂ ++ t) = c :: (rest' ++ t) := skipSpace_extend hend .nil t
      rw [hend']
      dsimp only at h ⊢
      split at h
      · next hc =>
        cases h
        rw [if_pos hc]
      · cases h
    · cases h

/-! ### Steady readers -/

/-- A value that the reader takes alone is taken as well with white space before it and what may end
a value behind it. -/
def Steady (read : Reader α) : Prop :=
  ∀ (v : Bytes) (a : α), IsValue v → read v = .ok (a, []) →
    ∀ lead rest, Blank lead → Ends rest → read (lead ++ (v ++ rest)) = .ok (a, rest)

theorem Extends.steady {read : Reader α} (h : Extends read) : Steady read :=
  fun _ _ _ alone lead rest hlead _ => h _ _ _ alone lead hlead rest

theorem head_of_numberOf {convert : Number → Option α} {b : UInt8} {t rest : Bytes} {a : α}
    (hb : begins b = true) (h : numberOf convert (b :: t) = .ok (a, rest)) :
    b = byte '-' ∨ isDigit b = true := by
  rw [numberOf, skipSpace_of_begins hb] at h
  dsimp only at h
  split at h
  · next hnumber => exact hnumber
  · cases h

theorem IsValue.isNumber {v : Bytes} (h : IsValue v) {b : UInt8} {t : Bytes} (heq : v = b :: t)
    (hb : b = byte '-' ∨ isDigit b = true) : IsNumber v := by
  have differs {c : UInt8} (hc : ¬ (c = byte '-' ∨ isDigit c = true)) {s : Bytes}
      (hs : v = c :: s) : False := by
    rw [hs] at heq
    cases heq
    exact hc hb
  cases h with
  | number h => exact h
  | null => exact (differs (c := byte 'n') (by decide) rfl).elim
  | yes => exact (differs (c := byte 't') (by decide) rfl).elim
  | no => exact (differs (c := byte 'f') (by decide) rfl).elim
  | text => exact (differs (c := 0x22) (by decide) rfl).elim
  | empty bracket | items bracket =>
    cases bracket with
    | square => exact (differs (c := 0x5B) (by decide) rfl).elim
    | curly => exact (differs (c := 0x7B) (by decide) rfl).elim

theorem steady_numberOf (convert : Number → Option α) : Steady (numberOf convert) := by
  intro v a hv alone lead rest hlead hrest
  obtain ⟨b, t, hbytes, hb⟩ := hv.head
  have hnumber : IsNumber v := hv.isNumber hbytes (head_of_numberOf hb (hbytes ▸ alone))
  exact numberOf_among hnumber alone lead rest hlead hrest

theorem Steady.map {read : Reader α} (h : Steady read) {f : α → β} {read' : Reader β}
    (same : ∀ s, read' s = (read s).map fun (a, rest) => (f a, rest)) : Steady read' := by
  intro v b hv alone lead rest hlead hrest
  rw [same] at alone ⊢
  obtain ⟨⟨a, rest'⟩, hread, heq⟩ := ok_of_map alone
  cases heq
  rw [h v a hv hread lead rest hlead hrest]
  rfl

theorem steady_double : Steady double :=
  steady_numberOf _

theorem steady_wholeIn (low high : Int) : Steady (wholeIn low high) :=
  steady_numberOf _

theorem steady_int64 : Steady int64 := by
  refine (steady_wholeIn (-0x8000000000000000) 0x7FFFFFFFFFFFFFFF).map (f := Int64.ofInt)
    fun s => ?_
  rw [int64]
  cases wholeIn _ _ s <;> rfl

theorem steady_uint64 : Steady uint64 := by
  refine (steady_wholeIn 0 0xFFFFFFFFFFFFFFFF).map (f := fun n : Int => n.toNat.toUInt64)
    fun s => ?_
  rw [uint64]
  cases wholeIn _ _ s <;> rfl

theorem steady_duration : Steady TelegramConfig.duration :=
  steady_int64.map (f := fun n => Span.ofMillis n.toInt.toNat) fun _ => rfl

end HostAlert.Json
