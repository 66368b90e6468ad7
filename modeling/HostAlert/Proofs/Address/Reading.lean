import HostAlert.Address.Notation
import HostAlert.Proofs.Text.Digits

/-!
# Reading addresses back

The text of every address is read as that address (`Ip.ofText?_toText`), so different addresses have
different texts. Each reader is shown to take the whole text of its part and to leave what follows,
where nothing follows that would go on with that part.
-/

namespace HostAlert.Address

open Text (decimal)

/-! ### Digits -/

/-- What follows does not go on with digits. -/
def Halts (isDigit : Char → Bool) (rest : List Char) : Prop :=
  ∀ c ∈ rest.head?, isDigit c = false

theorem takeWhile_append_of_halts {p : Char → Bool} {s rest : List Char} (all : ∀ c ∈ s, p c = true)
    (h : Halts p rest) : (s ++ rest).takeWhile p = s ∧ (s ++ rest).dropWhile p = rest := by
  induction s with
  | nil =>
    cases rest with
    | nil => exact ⟨rfl, rfl⟩
    | cons c rest =>
      have hc : p c = false := h c rfl
      simp [hc]
  | cons c s ih =>
    obtain ⟨hc, hs⟩ := List.forall_mem_cons.mp all
    simpa [hc] using ih hs

/-- The digits of a number are read back. -/
theorem readDigits_toDigits {isDigit : Char → Bool} {value : Char → Nat} {base most n : Nat}
    {rest : List Char} (hbase : 1 < base) (hdigit : ∀ d < base, isDigit (Nat.digitChar d) = true)
    (hvalue : ∀ d < base, value (Nat.digitChar d) = d) (hmost : 0 < most)
    (hn : n < Nat.pow base most) (h : Halts isDigit rest) :
    readDigits isDigit value base most (Nat.toDigits base n ++ rest) = some (n, rest) := by
  have hdigits : ∀ c ∈ Nat.toDigits base n, isDigit c = true := fun c hc => by
    obtain ⟨d, hd, rfl⟩ := Text.mem_toDigits hbase hc
    exact hdigit d hd
  obtain ⟨htake, hdrop⟩ := takeWhile_append_of_halts hdigits h
  have hlength : ¬ most < (Nat.toDigits base n).length :=
    Nat.not_lt.mpr ((Nat.length_toDigits_le_iff hbase hmost).mpr hn)
  rw [readDigits, htake, hdrop, Text.foldl_toDigits hbase hvalue]
  simp [Nat.toDigits_ne_nil, hlength]

/-! ### Dotted decimals -/

theorem readByte_decimal (b : UInt8) {rest : List Char} (h : Halts Char.isDigit rest) :
    readByte (decimal b.toNat ++ rest) = some (b, rest) := by
  have hlt := b.toNat_lt
  have hread : readDigits Char.isDigit Text.decimalValue 10 3 (decimal b.toNat ++ rest) =
      some (b.toNat, rest) :=
    readDigits_toDigits (by decide) (by decide) Text.decimalValue_digitChar (by decide)
      (Nat.lt_of_lt_of_le hlt (by decide)) h
  have hsize : ¬ 255 < b.toNat := by omega
  -- only the number zero begins with a zero, and it has no further digit
  have hzero : ¬ ((decimal b.toNat ++ rest).head? = some '0' ∧
      rest.length + 1 < (decimal b.toNat ++ rest).length) := by
    rintro ⟨hhead, hlength⟩
    rw [List.head?_append_of_ne_nil _ (Text.decimal_ne_nil _)] at hhead
    obtain hb | hb := Nat.eq_zero_or_pos b.toNat
    · rw [hb, List.length_append] at hlength
      have hone : (decimal 0).length = 1 := rfl
      omega
    · exact Text.head_decimal hb hhead
  simp only [readByte, hread, hsize, hzero, or_self, if_false, Nat.toUInt8, UInt8.ofNat_toNat]

theorem halts_digit_dot {rest : List Char} : Halts Char.isDigit ('.' :: rest) := by
  rintro c ⟨⟩
  rfl

theorem readV4_toText (a : V4) {rest : List Char} (h : Halts Char.isDigit rest) :
    readV4 (a.toText ++ rest) = some (a, rest) := by
  have hdot (rest : List Char) : readChar '.' ('.' :: rest) = some rest := rfl
  simp only [readV4, V4.toText, List.append_assoc, List.cons_append]
  simp only [readByte_decimal _ halts_digit_dot, readByte_decimal _ h, hdot, Option.bind_eq_bind,
    Option.bind_some]
  rfl

theorem readV4_toText_end (a : V4) : readV4 a.toText = some (a, []) := by
  have hread := readV4_toText a (show Halts Char.isDigit [] from nofun)
  rwa [List.append_nil] at hread

theorem readV4_eq_none {s : List Char} (h : (s.dropWhile Char.isDigit).head? ≠ some '.') :
    readV4 s = none := by
  rw [readV4]
  cases hbyte : readByte s with
  | none => rfl
  | some r =>
    obtain ⟨b, rest⟩ := r
    have hrest : rest = s.dropWhile Char.isDigit := by
      unfold readByte readDigits at hbyte
      grind
    have hdot : readChar '.' rest = none := by
      rw [hrest]
      cases hdrop : s.dropWhile Char.isDigit with
      | nil => rfl
      | cons c rest =>
        rw [hdrop] at h
        exact if_neg fun hc => h (congrArg some hc)
    simp [hdot]

/-! ### Groups -/

/-- The group is over: the text ends, or a colon follows. -/
def Separated (rest : List Char) : Prop :=
  rest = [] ∨ ∃ tail, rest = ':' :: tail

/-- The groups are over: the text ends, or two colons follow. -/
def Closed (rest : List Char) : Prop :=
  rest = [] ∨ ∃ tail, rest = ':' :: ':' :: tail

theorem Closed.separated {rest : List Char} (h : Closed rest) : Separated rest :=
  h.imp id fun ⟨tail, htail⟩ => ⟨':' :: tail, htail⟩

theorem Separated.halts {p : Char → Bool} (hp : p ':' = false) {rest : List Char}
    (h : Separated rest) : Halts p rest := by
  obtain rfl | ⟨tail, rfl⟩ := h
  · exact nofun
  · rintro c ⟨⟩
    exact hp

def groupText (g : UInt16) : List Char :=
  Nat.toDigits 16 g.toNat

theorem readGroup_groupText (g : UInt16) {rest : List Char} (h : Separated rest) :
    readGroup (groupText g ++ rest) = some (g, rest) := by
  have hlt := g.toNat_lt
  have hread : readDigits Text.isHexDigit Text.hexValue 16 4 (groupText g ++ rest) =
      some (g.toNat, rest) :=
    readDigits_toDigits (by decide) Text.isHexDigit_digitChar Text.hexValue_digitChar (by decide)
      (by omega) (h.halts rfl)
  rw [readGroup, hread]
  simp [Nat.toUInt16]

theorem readV4_groupText (g : UInt16) {rest : List Char} (h : Separated rest) :
    readV4 (groupText g ++ rest) = none := by
  have hdot {s : List Char} (hs : ∀ c ∈ s, c ≠ '.') :
      ((s ++ rest).dropWhile Char.isDigit).head? ≠ some '.' := by
    induction s with
    | nil =>
      obtain rfl | ⟨tail, rfl⟩ := h
      · exact nofun
      · rw [List.nil_append, List.dropWhile_cons_of_neg (by decide)]
        exact nofun
    | cons c s ih =>
      obtain ⟨hc, hs⟩ := List.forall_mem_cons.mp hs
      rw [List.cons_append, List.dropWhile_cons]
      split
      · exact ih hs
      · exact fun heq => hc (Option.some.inj heq)
  refine readV4_eq_none (hdot fun c hc => ?_)
  obtain ⟨d, hd, rfl⟩ := Text.mem_toDigits (by decide) hc
  have hdigits : ∀ d < 16, Nat.digitChar d ≠ '.' := by decide
  exact hdigits d hd

theorem readV4_of_closed {rest : List Char} (h : Closed rest) : readV4 rest = none := by
  obtain rfl | ⟨tail, rfl⟩ := h <;> rfl

def moreText (groups : List UInt16) : List Char :=
  groups.flatMap fun g => ':' :: groupText g

theorem groupsText_cons (g : UInt16) (groups : List UInt16) :
    groupsText (g :: groups) = groupText g ++ moreText groups := by
  induction groups generalizing g with
  | nil => simp [groupsText, groupText, moreText]
  | cons g' groups ih =>
    have htail := ih g'
    rw [groupsText, List.map_cons, List.map_cons, List.intercalate_cons_cons] at *
    rw [htail]
    simp [groupText, moreText]

theorem separated_moreText (groups : List UInt16) {rest : List Char} (h : Closed rest) :
    Separated (moreText groups ++ rest) := by
  cases groups with
  | nil => exact h.separated
  | cons g groups => exact .inr ⟨_, rfl⟩

theorem readGroups_of_closed (most : Nat) (isFirst : Bool) {rest : List Char} (h : Closed rest) :
    readGroups most isFirst rest = ([], false, rest) := by
  cases most with
  | zero => rfl
  | succ most =>
    obtain rfl | ⟨tail, rfl⟩ := h
    · cases isFirst <;> cases most <;> rfl
    · cases isFirst <;> cases most <;> rfl

theorem readGroups_moreText {groups : List UInt16} {most : Nat} (hmost : groups.length ≤ most)
    {rest : List Char} (h : Closed rest) :
    readGroups most false (moreText groups ++ rest) = (groups, false, rest) := by
  induction groups generalizing most with
  | nil => exact readGroups_of_closed most false h
  | cons g groups ih =>
    obtain ⟨most, rfl⟩ := Nat.exists_eq_add_of_le' (Nat.lt_of_lt_of_le (Nat.succ_pos _) hmost)
    have hrest := separated_moreText groups h
    have hgroups := ih (Nat.le_of_succ_le_succ hmost)
    have htext : moreText (g :: groups) ++ rest =
        ':' :: (groupText g ++ (moreText groups ++ rest)) := by
      simp [moreText]
    have hcolon (s : List Char) : readChar ':' (':' :: s) = some s := rfl
    rw [htext, readGroups]
    simp only [Bool.false_eq_true, if_false, hcolon, readV4_groupText g hrest, ite_self,
      readGroup_groupText g hrest, hgroups]

theorem readGroups_groupsText {groups : List UInt16} {most : Nat} (hmost : groups.length ≤ most)
    {rest : List Char} (h : Closed rest) :
    readGroups most true (groupsText groups ++ rest) = (groups, false, rest) := by
  cases groups with
  | nil => exact readGroups_of_closed most true h
  | cons g groups =>
    obtain ⟨most, rfl⟩ := Nat.exists_eq_add_of_le' (Nat.lt_of_lt_of_le (Nat.succ_pos _) hmost)
    have hrest := separated_moreText groups h
    have hgroups := readGroups_moreText (Nat.le_of_succ_le_succ hmost) h
    rw [groupsText_cons, List.append_assoc, readGroups]
    simp only [if_true, readV4_groupText g hrest, ite_self, readGroup_groupText g hrest, hgroups]

theorem readGroups_groupsText_end {groups : List UInt16} {most : Nat}
    (hmost : groups.length ≤ most) :
    readGroups most true (groupsText groups) = (groups, false, []) := by
  have hread := readGroups_groupsText hmost (.inl rfl)
  rwa [List.append_nil] at hread

theorem readV4_groupsText (groups : List UInt16) {rest : List Char} (h : Closed rest) :
    readV4 (groupsText groups ++ rest) = none := by
  cases groups with
  | nil => exact readV4_of_closed h
  | cons g groups =>
    rw [groupsText_cons, List.append_assoc]
    exact readV4_groupText g (separated_moreText groups h)

/-! ### Runs of zeros -/

theorem take_zerosAt {groups : List UInt16} {i n : Nat} (h : n ≤ zerosAt groups i) :
    (groups.drop i).take n = List.replicate n 0 := by
  have hzeros (gs : List UInt16) (n : Nat) (h : n ≤ (gs.takeWhile (· == 0)).length) :
      gs.take n = List.replicate n 0 := by
    induction gs generalizing n with
    | nil =>
      obtain rfl := Nat.le_zero.mp h
      rfl
    | cons g gs ih =>
      cases n with
      | zero => rfl
      | succ n =>
        rw [List.takeWhile_cons] at h
        split at h
        · next hg =>
          rw [List.take_succ_cons, ih n (Nat.le_of_succ_le_succ h), beq_iff_eq.mp hg]
          rfl
        · exact absurd h (Nat.not_succ_le_zero n)
  exact hzeros _ n h

/-- The run that is left out is made of zeros. -/
theorem longestZeros_le (groups : List UInt16) :
    (longestZeros groups).2 ≤ zerosAt groups (longestZeros groups).1 := by
  refine List.foldlRecOn (motive := fun best : Nat × Nat => best.2 ≤ zerosAt groups best.1) _ _
    (Nat.zero_le _) fun best h i _ => ?_
  split
  · exact Nat.le_refl _
  · exact h

/-- Around the run that is left out, the groups are put together again. -/
theorem groups_around {groups : List UInt16} {start n : Nat} (h : n ≤ zerosAt groups start) :
    groups.take start ++ List.replicate n 0 ++ groups.drop (start + n) = groups := by
  rw [← take_zerosAt h, ← List.drop_drop, List.append_assoc, List.take_append_drop,
    List.take_append_drop]

/-! ### Whole addresses -/

theorem joined_halves (g : UInt16) :
    (g / 256).toUInt8.toUInt16 * 256 + (g % 256).toUInt8.toUInt16 = g := by
  have hlt := g.toNat_lt
  rw [← UInt16.toNat_inj]
  simp only [UInt16.toNat_add, UInt16.toNat_mul, UInt8.toNat_toUInt16, UInt16.toNat_toUInt8,
    UInt16.toNat_div, UInt16.toNat_mod, UInt16.reduceToNat]
  omega

theorem groups_of_mapped {a : V6} {b : V4} (h : a.mapped? = some b) :
    a.groups = List.replicate 5 0 ++ 0xFFFF :: b.groups := by
  unfold V6.mapped? at h
  split at h
  · next hfront =>
    obtain ⟨h0, h1, h2, h3, h4, h5⟩ := hfront
    cases h
    simp only [V6.groups, V4.groups, joined_halves, h0, h1, h2, h3, h4, h5]
    rfl
  · cases h

theorem readV6_around {head tail : List UInt16} {a : V6} {n : Nat} (hn : 0 < n)
    (h : a.groups = head ++ List.replicate n 0 ++ tail) {text rest : List Char} {dotted : Bool}
    (hhead : text = groupsText head ++ ':' :: ':' :: rest)
    (htail : readGroups (7 - head.length) true rest = (tail, dotted, [])) :
    readV6 text = some (a, []) := by
  have hlength := congrArg List.length h
  simp only [V6.groups, List.length_cons, List.length_nil, List.length_append,
    List.length_replicate] at hlength
  have hgroups : readGroups 8 true text = (head, false, ':' :: ':' :: rest) := by
    rw [hhead]
    exact readGroups_groupsText (by omega) (.inr ⟨rest, rfl⟩)
  have hcolon (s : List Char) : readChar ':' (':' :: s) = some s := rfl
  have hcount : 8 - head.length - tail.length = n := by omega
  have hshort : ¬ head.length = 8 := by omega
  simp only [readV6, hgroups, hshort, hcolon, htail, hcount, ← h, V6.ofGroups?_groups, if_false,
    Bool.false_eq_true, Option.bind_eq_bind, Option.bind_some]
  rfl

theorem readGroups_mapped (b : V4) :
    readGroups 7 true (groupText 0xFFFF ++ ':' :: b.toText) = (0xFFFF :: b.groups, true, []) := by
  have hsep : Separated (':' :: b.toText) := .inr ⟨_, rfl⟩
  have htail : readGroups 6 false (':' :: b.toText) = (b.groups, true, []) := by
    have hcolon (s : List Char) : readChar ':' (':' :: s) = some s := rfl
    simp [readGroups, hcolon, readV4_toText_end]
  rw [readGroups]
  simp only [if_true, readV4_groupText _ hsep, ite_self, readGroup_groupText _ hsep, htail]

theorem readV6_toText (a : V6) : readV6 a.toText = some (a, []) := by
  unfold V6.toText
  split
  · next b hmapped =>
    have haround : a.groups = [] ++ List.replicate 5 0 ++ 0xFFFF :: b.groups :=
      groups_of_mapped hmapped
    exact readV6_around (by decide) haround rfl (readGroups_mapped b)
  · dsimp only
    split
    · next hrun =>
      have haround := groups_around (longestZeros_le a.groups)
      have hlength := congrArg List.length haround
      have height : a.groups.length = 8 := rfl
      rw [List.length_append, List.length_append, List.length_replicate, height] at hlength
      exact readV6_around (by omega) haround.symm (List.append_assoc ..)
        (readGroups_groupsText_end (by omega))
    · have hgroups : readGroups 8 true (groupsText a.groups) = (a.groups, false, []) :=
        readGroups_groupsText_end (Nat.le_refl 8)
      rw [readV6, hgroups]
      rfl

theorem readV4_toText_V6 (a : V6) : readV4 a.toText = none := by
  unfold V6.toText
  split
  · exact readV4_of_closed (.inr ⟨_, rfl⟩)
  · dsimp only
    split
    · rw [List.append_assoc]
      exact readV4_groupsText _ (.inr ⟨_, rfl⟩)
    · have hread := readV4_groupsText a.groups (.inl rfl)
      rwa [List.append_nil] at hread

/-- The text of an address is read as that address. -/
theorem Ip.ofText?_toText (a : Ip) : Ip.ofText? a.toText = some a := by
  cases a with
  | v4 a => simp only [Ip.ofText?, Ip.toText, String.toList_ofList, readV4_toText_end]
  | v6 a => simp only [Ip.ofText?, Ip.toText, String.toList_ofList, readV4_toText_V6, readV6_toText]

end HostAlert.Address
