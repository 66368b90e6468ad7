import HostAlert.Address.Notation

/-!
# The characters of an address

The text of an address consists of hexadecimal digits, points and colons (`Ip.spelled_of_ofText?`).
Each reader passes over such characters only, so what it leaves is the end of what it was given.
-/

namespace HostAlert.Address

def isSpelling (c : Char) : Bool :=
  Text.isHexDigit c || c == '.' || c == ':'

/-- The rest is left of the text after characters of an address. -/
def Spells (s rest : List Char) : Prop :=
  ∃ front, s = front ++ rest ∧ ∀ c ∈ front, isSpelling c

namespace Spells

variable {s r t : List Char}

theorem refl (s : List Char) : Spells s s :=
  ⟨[], rfl, fun _ h => by cases h⟩

theorem trans (h : Spells s r) (h' : Spells r t) : Spells s t := by
  obtain ⟨front, rfl, hfront⟩ := h
  obtain ⟨front', rfl, hfront'⟩ := h'
  refine ⟨front ++ front', (List.append_assoc ..).symm, fun c hc => ?_⟩
  exact (List.mem_append.mp hc).elim (hfront c) (hfront' c)

theorem all_of_nil (h : Spells s []) : ∀ c ∈ s, isSpelling c := by
  obtain ⟨front, rfl, hfront⟩ := h
  rwa [List.append_nil]

end Spells

variable {s rest : List Char}

theorem spells_readDigits {isDigit : Char → Bool} {value : Char → Nat} {base most n : Nat}
    (hdigit : ∀ c, isDigit c → isSpelling c)
    (h : readDigits isDigit value base most s = some (n, rest)) : Spells s rest := by
  unfold readDigits at h
  dsimp only at h
  split at h
  · cases h
  · cases h
    exact ⟨s.takeWhile isDigit, List.takeWhile_append_dropWhile.symm,
      fun c hc => hdigit c (List.all_eq_true.mp List.all_takeWhile c hc)⟩

theorem spells_readByte {b : UInt8} (h : readByte s = some (b, rest)) : Spells s rest := by
  unfold readByte at h
  split at h
  · cases h
  · next hdigits =>
    split at h
    · cases h
    · cases h
      refine spells_readDigits (fun c hc => ?_) hdigits
      simp [isSpelling, Text.isHexDigit, hc]

theorem spells_readGroup {g : UInt16} (h : readGroup s = some (g, rest)) : Spells s rest := by
  obtain ⟨⟨n, rest'⟩, hdigits, heq⟩ := Option.map_eq_some_iff.mp h
  cases heq
  exact spells_readDigits (fun c hc => by simp [isSpelling, hc]) hdigits

theorem spells_readChar {c : Char} (hc : isSpelling c) (h : readChar c s = some rest) :
    Spells s rest := by
  cases s with
  | nil => cases h
  | cons d s =>
    rw [readChar] at h
    split at h
    · next hd =>
      cases h
      exact ⟨[d], rfl, fun c' hc' => by rw [List.mem_singleton.mp hc', hd, hc]⟩
    · cases h

theorem spells_readV4 {a : V4} (h : readV4 s = some (a, rest)) : Spells s rest := by
  simp only [readV4, Option.bind_eq_bind, Option.bind_eq_some_iff, Prod.exists] at h
  obtain ⟨_, _, h0, _, hd0, _, _, h1, _, hd1, _, _, h2, _, hd2, _, _, h3, heq⟩ := h
  cases heq
  have hdot : isSpelling '.' := rfl
  exact (spells_readByte h0).trans <| (spells_readChar hdot hd0).trans <|
    (spells_readByte h1).trans <| (spells_readChar hdot hd1).trans <|
    (spells_readByte h2).trans <| (spells_readChar hdot hd2).trans (spells_readByte h3)

theorem spells_separator {isFirst : Bool}
    (h : (if isFirst then some s else readChar ':' s) = some rest) : Spells s rest := by
  split at h
  · cases h
    exact .refl s
  · exact spells_readChar rfl h

theorem spells_readGroups (most : Nat) (isFirst : Bool) (s : List Char) :
    Spells s (readGroups most isFirst s).2.2 := by
  fun_induction readGroups most isFirst s with
  | case1 | case2 | case4 => exact .refl _
  | case3 most isFirst s r hr a rest hv4 =>
    split at hv4
    · exact (spells_separator hr).trans (spells_readV4 hv4)
    · cases hv4
  | case5 most isFirst s r hr _ g rest hgroup groups dotted rest' hgroups ih =>
    rw [hgroups] at ih
    exact (spells_separator hr).trans ((spells_readGroup hgroup).trans ih)

theorem spells_readV6 {a : V6} (h : readV6 s = some (a, rest)) : Spells s rest := by
  unfold readV6 at h
  dsimp only at h
  have hcolon : isSpelling ':' := rfl
  have hhead := spells_readGroups 8 true s
  split at h
  · obtain ⟨a', -, heq⟩ := Option.map_eq_some_iff.mp h
    cases heq
    exact hhead
  · split at h
    · cases h
    · simp only [Option.bind_eq_bind, Option.bind_eq_some_iff] at h
      obtain ⟨_, h1, _, h2, _, -, heq⟩ := h
      cases heq
      exact hhead.trans <| (spells_readChar hcolon h1).trans <|
        (spells_readChar hcolon h2).trans (spells_readGroups _ _ _)

/-- An address is spelled with its characters only. -/
theorem Ip.spelled_of_ofText? {text : String} (h : (Ip.ofText? text).isSome) :
    ∀ c ∈ text.toList, isSpelling c := by
  unfold Ip.ofText? at h
  dsimp only at h
  split at h
  · next h4 => exact (spells_readV4 h4).all_of_nil
  · cases h
  · split at h
    · next h6 => exact (spells_readV6 h6).all_of_nil
    · cases h

end HostAlert.Address
