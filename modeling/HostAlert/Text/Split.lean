/-!
# Parts of texts

`splitOn` cuts a text at its separators. No separator is in a part (`eq_false_of_mem_splitOn`), and
the parts hold all the other characters in their order (`flatten_splitOn`). `lines` cuts a sequence
of characters or bytes at its line feeds: a carriage return before a line feed belongs to the line
end, and after the last line feed there is no line unless something follows.
-/

namespace HostAlert.Text

def splitOn (isSeparator : Char → Bool) : List Char → List (List Char)
  | [] => [[]]
  | c :: s =>
    if isSeparator c then [] :: splitOn isSeparator s
    else
      match splitOn isSeparator s with
      | [] => [[c]]
      | part :: parts => (c :: part) :: parts

theorem flatten_splitOn (isSeparator : Char → Bool) (s : List Char) :
    (splitOn isSeparator s).flatten = s.filter fun c => !isSeparator c := by
  induction s with
  | nil => rfl
  | cons c s ih =>
    unfold splitOn
    split
    · simp [*]
    · split <;> simp_all

theorem eq_false_of_mem_splitOn {isSeparator : Char → Bool} {s part : List Char} {c : Char}
    (h : part ∈ splitOn isSeparator s) (hc : c ∈ part) : isSeparator c = false := by
  induction s generalizing part with
  | nil => simp_all [splitOn]
  | cons d s ih =>
    unfold splitOn at h
    split at h
    · rcases List.mem_cons.1 h with rfl | h
      · simp at hc
      · exact ih h hc
    · next hd =>
      split at h
      · simp_all
      · next front parts hs =>
        rcases List.mem_cons.1 h with rfl | h
        · rcases List.mem_cons.1 hc with rfl | hc
          · simpa using hd
          · exact ih (hs ▸ List.mem_cons_self) hc
        · exact ih (hs ▸ List.mem_cons_of_mem _ h) hc

/-- The lines after the part `done` of a line, which is reversed. -/
def linesFrom {α : Type} [DecidableEq α] (feed carriage : α) (done : List α) :
    List α → List (List α)
  | [] => if done.isEmpty then [] else [done.reverse]
  | c :: s =>
    if c = feed then
      (if done.head? = some carriage then done.tail else done).reverse ::
        linesFrom feed carriage [] s
    else linesFrom feed carriage (c :: done) s

def lines {α : Type} [DecidableEq α] (feed carriage : α) (s : List α) : List (List α) :=
  linesFrom feed carriage [] s

example : lines '\n' '\r' "a\r\n\nb\r".toList = ["a".toList, [], "b\r".toList] := by
  decide +kernel

end HostAlert.Text
