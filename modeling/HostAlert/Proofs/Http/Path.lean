import HostAlert.Proofs.Http.Percent

/-!
# Segments of paths

The segments of a URL are empty or written for a part of its text between slashes (`mem_segments`).
Two parts that are no dot segments are both kept (`segments_pair`). What a request line says of a URL
has a question mark exactly if the URL has a query, and the segments are found again between its
slashes (`mem_target_iff`, `splitOn_target`).
-/

namespace HostAlert

namespace Text

variable {isSeparator : Char → Bool} {c : Char} {s part : List Char}

theorem splitOn_eq (isSeparator : Char → Bool) (s : List Char) :
    splitOn isSeparator s = s.splitOnP isSeparator := by
  induction s with
  | nil => rfl
  | cons c s ih =>
    rw [splitOn, List.splitOnP_cons_eq_if_modifyHead, ← ih]
    split
    · rfl
    · cases hs : splitOn isSeparator s with
      | nil => exact absurd (ih.symm.trans hs) (List.splitOnP_ne_nil _ s)
      | cons part parts => rfl

theorem splitOn_of_forall_not (h : ∀ c ∈ s, isSeparator c = false) :
    splitOn isSeparator s = [s] := by
  rw [splitOn_eq, List.splitOnP_eq_singleton h]

theorem splitOn_append_cons (hc : isSeparator c = true) (s r : List Char) :
    splitOn isSeparator (s ++ c :: r) = splitOn isSeparator s ++ splitOn isSeparator r := by
  rw [splitOn_eq, splitOn_eq, splitOn_eq, List.splitOnP_append_cons s r hc]

theorem sublist_of_mem_splitOn (h : part ∈ splitOn isSeparator s) : part.Sublist s := by
  have hfilter := flatten_splitOn isSeparator s
  exact (List.sublist_flatten_of_mem h).trans (hfilter ▸ List.filter_sublist)

/-- A part of what begins a text of two parts is left of the first or begins the second. -/
theorem sublist_or_prefix {front last : List Char} (hc : isSeparator c = true)
    (hlast : ∀ d ∈ last, isSeparator d = false) (hs : s <+: front ++ c :: last)
    (h : part ∈ splitOn isSeparator s) : part.Sublist front ∨ part <+: last := by
  obtain hshort | ⟨u, rfl⟩ := List.prefix_or_prefix_of_prefix hs (List.prefix_append front _)
  · exact .inl ((sublist_of_mem_splitOn h).trans hshort.sublist)
  · rw [List.prefix_append_right_inj] at hs
    cases u with
    | nil =>
      rw [List.append_nil] at h
      exact .inl (sublist_of_mem_splitOn h)
    | cons d u =>
      obtain ⟨rfl, hu⟩ := List.cons_prefix_cons.mp hs
      rw [splitOn_append_cons hc, List.mem_append] at h
      obtain hpart | hpart := h
      · exact .inl (sublist_of_mem_splitOn hpart)
      · rw [splitOn_of_forall_not fun c hc => hlast c (hu.subset hc)] at hpart
        exact .inr (List.mem_singleton.mp hpart ▸ hu)

end Text

namespace Http.Url

variable {path : List (List Char)} {segment : List Char}

theorem parent_subset (path : List (List Char)) : parent path ⊆ path := by
  cases path with
  | nil => exact List.Subset.refl _
  | cons last front =>
    rw [parent]
    split
    · exact List.Subset.refl _
    · exact List.subset_cons_self ..

theorem mem_resolve {segments : List (List Char)} (h : segment ∈ resolve path segments) :
    segment ∈ path ∨ segment ∈ segments ∨ segment = [] := by
  induction segments generalizing path with
  | nil =>
    rw [resolve, List.mem_reverse] at h
    exact .inl h
  | cons first rest ih =>
    -- a dot segment keeps or shortens the path, and the last one leaves an empty segment behind
    have hrest {front : List (List Char)} (hfront : front ⊆ path)
        (h : segment ∈ resolve (if rest.isEmpty then [] :: front else front) rest) :
        segment ∈ path ∨ segment ∈ first :: rest ∨ segment = [] := by
      obtain hpath | hmem | rfl := ih h
      · split at hpath
        · obtain rfl | hpath := List.mem_cons.mp hpath
          · exact .inr (.inr rfl)
          · exact .inl (hfront hpath)
        · exact .inl (hfront hpath)
      · exact .inr (.inl (List.mem_cons_of_mem _ hmem))
      · exact .inr (.inr rfl)
    rw [resolve] at h
    split at h
    · exact hrest (parent_subset path) h
    · split at h
      · exact hrest (List.Subset.refl path) h
      · obtain hpath | hmem | rfl := ih h
        · obtain rfl | hpath := List.mem_cons.mp hpath
          · exact .inr (.inl List.mem_cons_self)
          · exact .inl hpath
        · exact .inr (.inl (List.mem_cons_of_mem _ hmem))
        · exact .inr (.inr rfl)

theorem mem_segments {s : List Char} (h : segment ∈ segments ('/' :: s)) :
    segment = [] ∨ ∃ part ∈ Text.splitOn isSlash s, segment = part.flatMap encodeInPath := by
  obtain hnil | hmap | hempty := mem_resolve h
  · exact absurd hnil List.not_mem_nil
  · obtain ⟨part, hpart, rfl⟩ := List.mem_map.mp hmap
    exact .inr ⟨part, hpart, rfl⟩
  · exact .inl hempty

theorem no_mark_of_mem_segments {s : List Char} (h : segment ∈ segments ('/' :: s)) :
    '/' ∉ segment ∧ '?' ∉ segment := by
  obtain rfl | ⟨part, hpart, rfl⟩ := mem_segments h
  · exact ⟨List.not_mem_nil, List.not_mem_nil⟩
  · refine ⟨fun hslash => ?_, fun hmark => ?_⟩
    · obtain ⟨d, hd, hslash⟩ := List.mem_flatMap.mp hslash
      obtain rfl := (mem_encodeInPath hslash).2 rfl
      exact absurd (Text.eq_false_of_mem_splitOn hpart hd) (by decide)
    · obtain ⟨d, -, hmark⟩ := List.mem_flatMap.mp hmark
      exact (mem_encodeInPath hmark).1 rfl

/-- The segment stays where it is. -/
def IsOrdinary (segment : List Char) : Prop :=
  isDoubleDot segment = false ∧ isSingleDot segment = false

theorem segments_pair {first last : List Char} (hfirst : ∀ c ∈ first, isSlash c = false)
    (hlast : ∀ c ∈ last, isSlash c = false) (ordinary : IsOrdinary (first.flatMap encodeInPath))
    (ordinary' : IsOrdinary (last.flatMap encodeInPath)) :
    segments ('/' :: (first ++ '/' :: last)) =
      [first.flatMap encodeInPath, last.flatMap encodeInPath] := by
  have hslash : isSlash '/' = true := rfl
  rw [segments, List.drop_one, List.tail_cons, Text.splitOn_append_cons hslash,
    Text.splitOn_of_forall_not hfirst, Text.splitOn_of_forall_not hlast]
  simp only [List.singleton_append, List.map_cons, List.map_nil, resolve, ordinary.1, ordinary.2,
    ordinary'.1, ordinary'.2, Bool.false_eq_true, if_false]
  rfl

/-! ### Targets -/

theorem mem_target_iff {u : Url} (h : ∀ segment ∈ u.path, '?' ∉ segment) :
    '?' ∈ u.target.toList ↔ u.query ≠ none := by
  have hpath : '?' ∉ u.pathText := by
    intro hmem
    obtain ⟨segment, hsegment, hmem⟩ := List.mem_flatMap.mp hmem
    obtain hslash | hmem := List.mem_cons.mp hmem
    · exact absurd hslash (by decide)
    · exact h segment hsegment hmem
  rw [target, String.toList_ofList, List.mem_append, or_iff_right hpath]
  cases u.query with
  | none => exact iff_of_false List.not_mem_nil fun h => h rfl
  | some query => exact iff_of_true List.mem_cons_self (Option.some_ne_none query)

theorem splitOn_segments {first : List Char} (hfirst : '/' ∉ first)
    (h : ∀ segment ∈ path, '/' ∉ segment) :
    (first ++ path.flatMap fun segment => '/' :: segment).splitOn '/' = first :: path := by
  induction path generalizing first with
  | nil => rw [List.flatMap_nil, List.append_nil, List.splitOn_eq_singleton hfirst]
  | cons segment path ih =>
    rw [List.flatMap_cons, List.cons_append,
      List.splitOn_append_cons_self_of_not_mem hfirst,
      ih (h segment List.mem_cons_self) fun s hs => h s (List.mem_cons_of_mem _ hs)]

/-- Without a query, the segments are what is between the slashes. -/
theorem splitOn_target {u : Url} (hquery : u.query = none) (h : ∀ segment ∈ u.path, '/' ∉ segment) :
    u.target.toList.splitOn '/' = [] :: u.path := by
  rw [target, String.toList_ofList, hquery, led, List.append_nil, pathText]
  exact splitOn_segments List.not_mem_nil h

end Http.Url

end HostAlert
