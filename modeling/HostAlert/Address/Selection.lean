import HostAlert.Address.Notation

/-!
# Addresses worth showing

`select` picks the addresses of a host that are shown: the private ones when there are any, else
those that name a single host elsewhere. Loopback and link-local addresses never qualify. The result
is sorted and free of duplicates.
-/

namespace HostAlert.Address

/-- Puts a text into a sorted list, unless it is there. -/
def insertText (s : String) : List String → List String
  | [] => [s]
  | t :: ts => if s < t then s :: t :: ts else if s = t then t :: ts else t :: insertText s ts

/-- The texts in order, each once. -/
def sortedTexts (texts : List String) : List String :=
  texts.foldr insertText []

theorem mem_insertText {s t : String} {ts : List String} :
    t ∈ insertText s ts ↔ t = s ∨ t ∈ ts := by
  induction ts with
  | nil => simp [insertText]
  | cons u us ih => grind [insertText]

theorem mem_sortedTexts {t : String} {texts : List String} : t ∈ sortedTexts texts ↔ t ∈ texts := by
  induction texts with
  | nil => simp [sortedTexts]
  | cons s texts ih =>
    rw [sortedTexts, List.foldr_cons, ← sortedTexts, mem_insertText, ih, List.mem_cons]

theorem pairwise_insertText {s : String} {ts : List String} (h : ts.Pairwise (· < ·)) :
    (insertText s ts).Pairwise (· < ·) := by
  induction ts with
  | nil => simp [insertText]
  | cons t ts ih =>
    obtain ⟨ht, hts⟩ := List.pairwise_cons.mp h
    unfold insertText
    split
    · rename_i hst
      refine List.pairwise_cons.mpr ⟨fun u hu => ?_, h⟩
      rcases List.mem_cons.mp hu with rfl | hu
      · exact hst
      · exact String.lt_trans hst (ht u hu)
    · split
      · exact h
      · rename_i hlt hne
        have hts' : t < s := Std.lt_of_le_of_ne (String.not_lt.mp hlt) (Ne.symm hne)
        refine List.pairwise_cons.mpr ⟨fun u hu => ?_, ih hts⟩
        rcases mem_insertText.mp hu with rfl | hu
        · exact hts'
        · exact ht u hu

/-- The texts are in strictly increasing order. -/
theorem pairwise_sortedTexts (texts : List String) : (sortedTexts texts).Pairwise (· < ·) := by
  induction texts with
  | nil => simp [sortedTexts]
  | cons s texts ih => exact pairwise_insertText ih

def isReachable (a : Ip) : Bool :=
  !a.isLoopback && !a.isLinkLocal

/-- The texts of the addresses worth showing. -/
def select (addresses : List Ip) : List String :=
  let reachable := (addresses.map Ip.canonical).filter isReachable
  let locals := reachable.filter Ip.isPrivate
  let chosen := if locals.isEmpty then reachable.filter Ip.isUnicast else locals
  sortedTexts (chosen.map Ip.toText)

end HostAlert.Address
