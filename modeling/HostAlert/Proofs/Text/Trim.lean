import HostAlert.Text.Blank

/-!
# Trimmed texts

A trimmed text begins with no blank character (`not_blank_of_trim_eq_cons`) and ends with none
(`not_blank_of_getLast?_trim`), so trimming it again changes nothing (`trim_trim`).
-/

namespace HostAlert.Text

theorem trimEnd_prefix (s : List Char) : trimEnd s <+: s := by
  have hsuffix : s.reverse.dropWhile isBlank <:+ s.reverse := List.dropWhile_suffix _
  rw [trimEnd, ← List.reverse_suffix, List.reverse_reverse]
  exact hsuffix

theorem not_blank_of_trim_eq_cons {s t : List Char} {c : Char} (h : trim s = c :: t) :
    isBlank c = false := by
  obtain ⟨r, hr⟩ : c :: t <+: trimStart s := h ▸ trimEnd_prefix (trimStart s)
  have hhead := List.head?_dropWhile_not isBlank s
  rw [← trimStart, ← hr] at hhead
  exact hhead

/-- A trimmed text ends with a character that is not blank. -/
theorem not_blank_of_getLast?_trim {s : List Char} {c : Char} (h : (trim s).getLast? = some c) :
    isBlank c = false := by
  have hlast := List.head?_dropWhile_not isBlank (trimStart s).reverse
  rw [trim, trimEnd, List.getLast?_reverse] at h
  rw [h] at hlast
  exact hlast

theorem trimStart_of_not_blank {c : Char} (h : isBlank c = false) (s : List Char) :
    trimStart (c :: s) = c :: s := by
  rw [trimStart, List.dropWhile_cons, h, if_neg Bool.false_ne_true]

theorem trimStart_replicate {c : Char} (h : isBlank c = false) (n : Nat) :
    trimStart (List.replicate n c) = List.replicate n c := by
  cases n with
  | zero => rfl
  | succ n => exact trimStart_of_not_blank h _

theorem trim_replicate {c : Char} (h : isBlank c = false) (n : Nat) :
    trim (List.replicate n c) = List.replicate n c := by
  rw [trim, trimStart_replicate h, trimEnd, List.reverse_replicate, ← trimStart,
    trimStart_replicate h, List.reverse_replicate]

theorem trimStart_trimStart (s : List Char) : trimStart (trimStart s) = trimStart s := by
  cases hs : trimStart s with
  | nil => rfl
  | cons c t =>
    have hhead := List.head?_dropWhile_not isBlank s
    rw [← trimStart, hs] at hhead
    exact trimStart_of_not_blank hhead t

theorem trimEnd_trimEnd (s : List Char) : trimEnd (trimEnd s) = trimEnd s := by
  have hstart := trimStart_trimStart s.reverse
  unfold trimEnd
  rw [List.reverse_reverse, ← trimStart, ← trimStart, hstart]

@[simp] theorem trim_trim (s : List Char) : trim (trim s) = trim s := by
  have hstart : trimStart (trim s) = trim s := by
    cases hs : trim s with
    | nil => rfl
    | cons c t => exact trimStart_of_not_blank (not_blank_of_trim_eq_cons hs) t
  calc trim (trim s) = trimEnd (trimStart (trim s)) := rfl
    _ = trimEnd (trim s) := by rw [hstart]
    _ = trim s := trimEnd_trimEnd (trimStart s)

@[simp] theorem trimmed_trimmed (s : String) : trimmed (trimmed s) = trimmed s := by
  rw [trimmed, toList_trimmed, trim_trim, ← trimmed]

theorem isEmpty_trimmed (s : String) : (trimmed s).isEmpty = true ↔ trim s.toList = [] := by
  rw [trimmed, String.isEmpty_iff, String.ofList_eq_empty_iff]

theorem blank_or_mem_trim {s : List Char} {c : Char} (h : c ∈ s) : isBlank c ∨ c ∈ trim s := by
  have hkeeps : ∀ {t : List Char}, c ∈ t → isBlank c ∨ c ∈ trimStart t := fun {t} ht => by
    rw [← @List.takeWhile_append_dropWhile _ isBlank t, List.mem_append] at ht
    exact ht.imp_left (List.all_eq_true.mp List.all_takeWhile c)
  obtain hblank | hstart := hkeeps h
  · exact .inl hblank
  · obtain hblank | hend := hkeeps (List.mem_reverse.mpr hstart)
    · exact .inl hblank
    · exact .inr (List.mem_reverse.mpr hend)

/-! ### What is added at the end -/

variable {s r : List Char}

theorem trimStart_append (hs : ¬ ∀ c ∈ s, isBlank c) : trimStart (s ++ r) = trimStart s ++ r := by
  have hne : ¬ (s.dropWhile isBlank).isEmpty = true := by
    rwa [List.isEmpty_iff, ← trimStart, trimStart_eq_nil_iff]
  rw [trimStart, List.dropWhile_append, if_neg hne, ← trimStart]

theorem trimEnd_append (hr : ¬ ∀ c ∈ r, isBlank c) : trimEnd (s ++ r) = s ++ trimEnd r := by
  have hne : ¬ (r.reverse.dropWhile isBlank).isEmpty = true := by
    rwa [List.isEmpty_iff, ← List.reverse_eq_nil_iff, ← trimEnd, trimEnd_eq_nil_iff]
  rw [trimEnd, List.reverse_append, List.dropWhile_append, if_neg hne, List.reverse_append,
    List.reverse_reverse, ← trimEnd]

theorem trimEnd_append_blank (hr : ∀ c ∈ r, isBlank c) : trimEnd (s ++ r) = trimEnd s := by
  have hr' : ∀ c ∈ r.reverse, isBlank c := fun c hc => hr c (List.mem_reverse.mp hc)
  rw [trimEnd, List.reverse_append, List.dropWhile_append_of_pos hr', ← trimEnd]

/-- What is left of a text with more than blank characters stands in front when the text goes on. -/
theorem trim_prefix_trim_append (hs : trim s ≠ []) : trim s <+: trim (s ++ r) := by
  rw [ne_eq, trim_eq_nil_iff] at hs
  rw [trim, trim, trimStart_append hs]
  by_cases hr : ∀ c ∈ r, isBlank c
  · exact trimEnd_append_blank hr ▸ List.prefix_rfl
  · have hfront := trimEnd_prefix (trimStart s)
    rw [trimEnd_append hr]
    exact hfront.trans (List.prefix_append _ _)

/-- Nothing is added to it exactly when the text goes on with blank characters only. -/
theorem trim_eq_trim_append_iff (hs : trim s ≠ []) :
    trim s = trim (s ++ r) ↔ ∀ c ∈ r, isBlank c := by
  rw [ne_eq, trim_eq_nil_iff] at hs
  rw [trim, trim, trimStart_append hs]
  by_cases hr : ∀ c ∈ r, isBlank c
  · exact iff_of_true (trimEnd_append_blank hr).symm hr
  · refine iff_of_false (fun heq => ?_) hr
    have hend : trimEnd r ≠ [] := mt trimEnd_eq_nil_iff.mp hr
    have hlength := congrArg List.length heq
    rw [trimEnd_append hr, List.length_append] at hlength
    have hfront := trimEnd_prefix (trimStart s)
    have hshort := hfront.length_le
    have hback := List.length_pos_iff.mpr hend
    omega

end HostAlert.Text
