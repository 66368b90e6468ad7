import HostAlert.Text.Numeral

/-!
# Tables of code points

A property of characters is kept as a table: closed ranges of code points in ascending order, each
with what is said of it. A module that holds a table writes it as lines of words between spaces. A
word is a range such as `41-5A` or `5F`, in hexadecimal digits, and in some tables a value after a
colon. `Table.find?` looks a code point up; what it finds holds the code point (`mem_of_find?`).
-/

namespace HostAlert.Text

structure Entry (α : Type) where
  first : Nat
  last : Nat
  value : α

abbrev Table (α : Type) : Type := Array (Entry α)

abbrev CodeSet : Type := Table Unit

namespace Table

/-! ### Reading -/

def words (lines : List String) : List String :=
  lines.flatMap fun line => line.splitOn " "

def ends (range : String) : Nat × Nat :=
  match (range.splitOn "-").map fun s => hexNumber s.toList with
  | [first, last] => (first, last)
  | [only] => (only, only)
  | _ => (0, 0)

/-- The table of lines whose words have a value after a colon. `read` makes it of its text. -/
def ofLines {α : Type} (read : String → α) (lines : List String) : Table α :=
  ((words lines).filterMap fun word =>
    match word.splitOn ":" with
    | [range, value] => some ⟨(ends range).1, (ends range).2, read value⟩
    | _ => none).toArray

/-- The code points of a text such as `66+69`. -/
def codes (s : String) : List Char :=
  (s.splitOn "+").map fun digits => Char.ofNat (hexNumber digits.toList)

/-- The table of lines whose words hold a code point and, after a colon, with commas between them,
the texts for it and the code points that follow it. -/
def ofSequences (lines : List String) : Table (List Char) :=
  ((words lines).flatMap fun word =>
    match word.splitOn ":" with
    | [first, texts] =>
      (texts.splitOn ",").zipIdx.map fun (text, i) =>
        let n := (ends first).1 + i
        ⟨n, n, codes text⟩
    | _ => []).toArray

/-! ### Looking up -/

/-- Looks for the entry of `n` between two positions. -/
def search {α : Type} (t : Table α) (n low high : Nat) : Option (Entry α) :=
  if low < high then
    match t[(low + high) / 2]? with
    | none => none
    | some e =>
      if n < e.first then search t n low ((low + high) / 2)
      else if e.last < n then search t n ((low + high) / 2 + 1) high
      else some e
  else none
termination_by high - low

def find? {α : Type} (t : Table α) (n : Nat) : Option (Entry α) :=
  search t n 0 t.size

theorem mem_of_search {α : Type} {t : Table α} {n low high : Nat} {e : Entry α}
    (h : search t n low high = some e) : e.first ≤ n ∧ n ≤ e.last := by
  fun_induction search t n low high with
  | case1 => simp at h
  | case2 _ _ _ _ _ _ ih => exact ih h
  | case3 _ _ _ _ _ _ _ ih => exact ih h
  | case4 low high _ d _ h₁ h₂ =>
    obtain rfl : d = e := by simpa using h
    omega
  | case5 => simp at h

theorem mem_of_find? {α : Type} {t : Table α} {n : Nat} {e : Entry α} (h : t.find? n = some e) :
    e.first ≤ n ∧ n ≤ e.last :=
  mem_of_search h

def value? {α : Type} (t : Table α) (c : Char) : Option α :=
  (t.find? c.toNat).map Entry.value

end Table

namespace CodeSet

def ofLines (lines : List String) : CodeSet :=
  ((Table.words lines).map fun range => ⟨(Table.ends range).1, (Table.ends range).2, ()⟩).toArray

def contains (t : CodeSet) (c : Char) : Bool :=
  (Table.find? t c.toNat).isSome

end CodeSet

end HostAlert.Text
