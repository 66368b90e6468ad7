import HostAlert.Json.Record
import HostAlert.Proofs.Decimal.Finite

/-!
# What readers give

Every double that is read is finite (`isFinite_of_double`): powers of ten are large finite doubles,
and a product that is infinite is refused. A property that each member of a record keeps holds of
every record that is read if it holds of the starting value (`record_keeps`). No record is read from
bytes without a bracket (`bracket_mem_of_record`).
-/

namespace HostAlert.Json

open Decimal (isFinite_div isFinite_mul isFinite_neg isFinite_of_isLarge isFinite_toFloat isLarge
  isLarge_pack_round log2_two_pow_mul_lt)
open Float.Model (UnpackedFloat)
open Float.Model.UnpackedFloat (roundWithAccuracy)

section

variable {ε α β : Type} {r : Except ε α} {b : β}

theorem ok_of_bind {f : α → Except ε β} (h : r >>= f = .ok b) : ∃ a, r = .ok a ∧ f a = .ok b := by
  cases r with
  | error => cases h
  | ok a => exact ⟨a, rfl, h⟩

theorem ok_of_map {f : α → β} (h : r.map f = .ok b) : ∃ a, r = .ok a ∧ f a = b := by
  cases r with
  | error => cases h
  | ok a => exact ⟨a, rfl, Except.ok.inj h⟩

end

/-! ### Doubles -/

theorem isLarge_tenTo_small : ∀ n < 22, isLarge (tenTo (n + 1)).toModel.unpack = true := by
  decide +kernel

theorem tenTo_eq {n : Nat} (low : 22 < n) (high : n ≤ 308) : tenTo n =
    .ofModel (.pack (roundWithAccuracy .binary64 .positive (2 ^ 53 * 10 ^ n) (-53) .exact)) := by
  have hslow : ¬ (1 < 2 ^ 53 ∧ n ≤ 22) := by omega
  have hmodel : tenTo n = .ofModel (.ofScientific 1 n) := dif_neg hslow
  have hone : ¬ 1 = 0 := by decide
  have hlarge : ¬ (n : Int) > 2 ^ 11 := by omega
  have hsmall : ¬ (n : Int) < -((2 ^ 11 : Int) + Nat.log2 1) := by omega
  have hsign : 0 ≤ (n : Int) := by omega
  rw [hmodel, Float.Model.ofScientific, UnpackedFloat.ofScientific, dif_neg hone]
  refine congrArg _ (congrArg _ ((if_neg hlarge).trans ((if_neg hsmall).trans (if_pos hsign))))

theorem isLarge_tenTo {n : Nat} (low : 0 < n) (high : n ≤ 308) :
    isLarge (tenTo n).toModel.unpack = true := by
  obtain hlow | hsmall := Nat.lt_or_ge 22 n
  case inr =>
    obtain ⟨k, rfl⟩ : ∃ k, n = k + 1 := ⟨n - 1, by omega⟩
    exact isLarge_tenTo_small k hsmall
  obtain rfl | hhigh := Nat.eq_or_lt_of_le high
  · -- the only one above 2^1023, where the bound for rounding does not apply
    decide +kernel
  have hpos : 0 < 10 ^ n := Nat.pow_pos (by decide)
  have hfit : 10 ^ n < 2 ^ 1020 :=
    Nat.lt_of_le_of_lt (Nat.pow_le_pow_right (by decide) (Nat.le_of_lt_succ hhigh))
      (by decide +kernel)
  have hmax : (2 ^ 53 * 10 ^ n).log2 < 53 + 1020 := log2_two_pow_mul_lt 53 hpos hfit
  have hmin : 56 ≤ (2 ^ 53 * 10 ^ n).log2 := by
    have hten : 10 ^ 1 ≤ 10 ^ n := Nat.pow_le_pow_right (by decide) low
    exact (Nat.le_log2 (by omega)).mpr (by omega)
  rw [tenTo_eq hlow high]
  exact isLarge_pack_round .positive .exact (by omega) (by omega) (by omega) (by omega)

theorem isFinite_tenTo {n : Nat} (h : n ≤ 308) : (tenTo n).isFinite = true := by
  obtain rfl | hpos := Nat.eq_zero_or_pos n
  · decide +kernel
  · exact isFinite_of_isLarge (isLarge_tenTo hpos h)

theorem isFinite_of_scaled? {n : Nat} {scale : Int} {x : Float} (h : scaled? n scale = some x) :
    x.isFinite = true := by
  have hn := isFinite_toFloat n.toUInt64
  have hzero : (0 : Float).isFinite = true := by decide +kernel
  unfold scaled? at h
  dsimp only at h
  split at h
  · cases h
    exact hzero
  split at h
  · cases h
    exact isFinite_div (isFinite_div hn (isLarge_tenTo (by decide) (by decide)))
      (isLarge_tenTo (by omega) (by omega))
  split at h
  · cases h
    exact isFinite_div hn (isLarge_tenTo (by omega) (by omega))
  split at h
  · cases h
    exact hzero
  split at h
  · cases h
  split at h
  · cases h
  · rename_i hinf
    cases h
    exact isFinite_mul hn (isFinite_tenTo (by omega)) ((Bool.not_eq_true _).mp hinf)

theorem isFinite_of_number? {v : Numeral} {x : Float} (h : v.number? = some (.double x)) :
    x.isFinite = true := by
  have signed {y : Float} (hy : y.isFinite = true) :
      (if v.negative then -y else y).isFinite = true := by
    split
    · exact isFinite_neg hy
    · exact hy
  have scaled {n : Nat} {scale : Int} (h : (scaled? n scale).map
      (fun y => Number.double (if v.negative then -y else y)) = some (.double x)) :
      x.isFinite = true := by
    obtain ⟨y, hy, heq⟩ := Option.map_eq_some_iff.mp h
    cases heq
    exact signed (isFinite_of_scaled? hy)
  unfold Numeral.number? at h
  dsimp only at h
  split at h
  · split at h
    · exact scaled h
    split at h
    · cases h
    split at h
    · cases h
      exact signed (isFinite_toFloat _)
    · cases h
  · exact scaled h

theorem isFinite_doubleOfInt (n : Int) : (doubleOfInt n).isFinite = true := by
  rw [doubleOfInt]
  split
  · exact isFinite_neg (isFinite_toFloat _)
  · exact isFinite_toFloat _

theorem number?_of_number {s rest : Bytes} {n : Number} (h : number s = .ok (n, rest)) :
    ∃ v : Numeral, v.number? = some n := by
  obtain ⟨⟨v, t⟩, -, hvalue⟩ := ok_of_bind h
  dsimp only at hvalue
  split at hvalue
  · rename_i m hm
    cases hvalue
    exact ⟨v, hm⟩
  · cases hvalue

theorem converted_of_numberOf {α : Type} {convert : Number → Option α} {s rest : Bytes} {a : α}
    (h : numberOf convert s = .ok (a, rest)) :
    ∃ v : Numeral, ∃ n, v.number? = some n ∧ convert n = some a := by
  rw [numberOf] at h
  split at h
  · cases h
  split at h
  · obtain ⟨⟨n, t⟩, hnumber, hvalue⟩ := ok_of_bind h
    obtain ⟨v, hv⟩ := number?_of_number hnumber
    dsimp only at hvalue
    split at hvalue
    · rename_i hconvert
      cases hvalue
      exact ⟨v, n, hv, hconvert⟩
    · cases hvalue
  · cases h

theorem isFinite_of_double {s rest : Bytes} {x : Float} (h : double s = .ok (x, rest)) :
    x.isFinite = true := by
  obtain ⟨v, n, hv, hconvert⟩ := converted_of_numberOf h
  cases n with
  | whole n =>
    cases hconvert
    exact isFinite_doubleOfInt n
  | double y =>
    cases hconvert
    exact isFinite_of_number? hv

/-! ### Records -/

/-- The member keeps a property of records, whatever is read. -/
def Member.Keeps {σ : Type} (p : σ → Prop) (m : Member σ) : Prop :=
  ∀ record s next rest, p record → m.read record s = .ok (next, rest) → p next

theorem Member.Keeps.of {σ α : Type} {p : σ → Prop} {q : α → Prop} {name : String}
    {absence : Absence} {read : Reader α} {put : σ → α → σ}
    (gives : ∀ s a rest, read s = .ok (a, rest) → q a)
    (keeps : ∀ record a, p record → q a → p (put record a)) :
    (Member.of name absence read put).Keeps p := by
  intro record s next rest hp h
  obtain ⟨⟨a, t⟩, hread, heq⟩ := ok_of_map h
  cases heq
  exact keeps record a hp (gives s a rest hread)

section

variable {σ : Type} {p : σ → Prop} {members : List (Member σ)} {record next : σ} {s rest : Bytes}

theorem fromList_keeps (keeps : ∀ m ∈ members, m.Keeps p) {isFirst : Bool} (hp : p record)
    (h : Member.fromList members isFirst record s = .ok (next, rest)) : p next := by
  induction members generalizing isFirst record s with
  | nil =>
    obtain ⟨after, -, heq⟩ := ok_of_map h
    cases heq
    exact hp
  | cons m members ih =>
    have hrest : ∀ m ∈ members, m.Keeps p := fun m hm => keeps m (List.mem_cons_of_mem _ hm)
    rw [Member.fromList] at h
    split at h
    · cases h
    · split at h
      · exact ih hrest hp h
      · cases h
    · split at h
      · cases h
      · rename_i hread
        exact ih hrest (keeps m List.mem_cons_self _ _ _ _ hp hread) h

theorem value_keeps (keeps : ∀ m ∈ members, m.Keeps p) {seen seen' : List String} {name : String}
    (hp : p record) (h : Member.value members seen name record s = .ok (seen', next, rest)) :
    p next := by
  rw [Member.value] at h
  split at h
  · obtain ⟨after, -, heq⟩ := ok_of_bind h
    cases heq
    exact hp
  · rename_i m hfound
    split at h
    · cases h
    · obtain ⟨⟨next, after⟩, hvalue, heq⟩ := ok_of_bind h
      obtain ⟨start, -, hread⟩ := ok_of_bind hvalue
      cases heq
      exact keeps m (List.mem_of_find?_eq_some hfound) _ _ _ _ hp hread

theorem fromObject_keeps (keeps : ∀ m ∈ members, m.Keeps p) {fuel : Nat} {seen : List String}
    {isFirst : Bool} (hp : p record)
    (h : Member.fromObject members fuel seen isFirst record s = .ok (next, rest)) : p next := by
  induction fuel generalizing seen isFirst record s with
  | zero => cases h
  | succ fuel ih =>
    rw [Member.fromObject] at h
    split at h
    · cases h
    · split at h
      · obtain ⟨after, -, heq⟩ := ok_of_map h
        cases heq
        exact hp
      · cases h
    · split at h
      · cases h
      · split at h
        · cases h
        · rename_i hvalue
          exact ih (value_keeps keeps hp hvalue) h

/-- A record that is read has what its starting value has and all members keep. -/
theorem record_keeps (keeps : ∀ m ∈ members, m.Keeps p) {start : σ} (hp : p start)
    (h : Json.record members start s = .ok (next, rest)) : p next := by
  rw [Json.record] at h
  split at h
  · cases h
  split at h
  · exact fromList_keeps keeps hp h
  split at h
  · exact fromObject_keeps keeps hp h
  · cases h

theorem bracket_mem_of_record {start : σ} (h : Json.record members start s = .ok (next, rest)) :
    0x5B ∈ s ∨ 0x7B ∈ s := by
  rw [Json.record] at h
  split at h
  · cases h
  · next b r hspace =>
    have hfirst : b ∈ skipSpace s := by
      rw [hspace]
      exact List.mem_cons_self
    have hb : b ∈ s := (List.dropWhile_suffix isSpace).subset hfirst
    split at h
    · next hsquare => exact .inl (hsquare ▸ hb)
    split at h
    · next hcurly => exact .inr (hcurly ▸ hb)
    · cases h

end

theorem read_of_document {α : Type} {read : Reader α} {s : Bytes} {a : α}
    (h : document read s = .ok a) : ∃ rest, read s = .ok (a, rest) := by
  obtain ⟨⟨b, rest⟩, hread, hend⟩ := ok_of_bind h
  dsimp only at hend
  split at hend
  · cases hend
    exact ⟨rest, hread⟩
  · cases hend

end HostAlert.Json
