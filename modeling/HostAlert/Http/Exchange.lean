import HostAlert.Http.Url

/-!
# Requests to other hosts and their answers

A `Call` is a request as it goes out. Its answer is a failure or a `Reply`, whose body arrives in
chunks and may break off. `readLimited` reads the front of a body.
-/

namespace HostAlert.Http

structure Call where
  url : Url
  /-- The form that is posted; none when the call asks for a document. -/
  form : Option (List (String × String))
  deriving DecidableEq

/-- What came back for a call. -/
structure Reply where
  status : Nat
  chunks : List Bytes
  /-- Whether the body arrived to its announced end. -/
  whole : Bool
  deriving DecidableEq

inductive Answer
  /-- No answer came. -/
  | failed
  | reply (r : Reply)
  deriving DecidableEq

/-- Reads at most `limit` bytes of a body. A body that breaks off ends there. -/
def readLimited : (limit : Nat) → (chunks : List Bytes) → Bytes
  | _, [] => []
  | limit, chunk :: chunks =>
    if limit = 0 then [] else chunk.take limit ++ readLimited (limit - chunk.length) chunks

/-- What is read is the front of all that arrived, however it was cut. -/
theorem readLimited_eq_take (limit : Nat) (chunks : List Bytes) :
    readLimited limit chunks = chunks.flatten.take limit := by
  induction chunks generalizing limit with
  | nil => simp [readLimited]
  | cons chunk chunks ih =>
    unfold readLimited
    split
    · simp_all
    · rw [ih, List.flatten_cons, List.take_append]

def Reply.body (r : Reply) (limit : Nat) : Bytes :=
  readLimited limit r.chunks

end HostAlert.Http
