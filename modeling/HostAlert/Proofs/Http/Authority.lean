import HostAlert.Proofs.Http.Path
import Mathlib.Data.List.TakeWhile

/-!
# URLs of a host and a port

What comes after the port in a URL is kept apart from the host and the port, whatever it is
(`Authority.ofText?_eq`). Without question marks and number signs all of it is the path
(`Authority.url_of_no_mark`).
-/

namespace HostAlert.Http.Url

/-- The part of a URL that names a host and a port. -/
structure Authority where
  hostText : List Char
  portText : List Char
  host : Host
  port : Nat
  plain : ∀ c ∈ hostText ++ ':' :: portText,
    endsAuthority c = false ∧ c ≠ '@' ∧ isTabOrNewline c = false
  parts : hostAndPort false (hostText ++ ':' :: portText) = (hostText, some portText)
  readHost : host? hostText = some host
  readPort : port? false (some portText) = some port

def Authority.text (a : Authority) : List Char :=
  a.hostText ++ ':' :: a.portText

theorem endsAuthority_eq_false_iff {c : Char} :
    endsAuthority c = false ↔ isSlash c = false ∧ c ≠ '?' ∧ c ≠ '#' := by
  simp [endsAuthority, and_assoc]

theorem prepared_eq {c d : Char} (hc : isControlOrSpace c = false) (hd : isControlOrSpace d = false)
    (s : List Char) :
    prepared (c :: (s ++ [d])) = (c :: (s ++ [d])).filter fun c => !isTabOrNewline c := by
  have hfront : (c :: (s ++ [d])).dropWhile isControlOrSpace = c :: (s ++ [d]) :=
    List.dropWhile_cons_of_neg (by simp [hc])
  have hback : (c :: (s ++ [d])).reverse.dropWhile isControlOrSpace = (c :: (s ++ [d])).reverse := by
    rw [← List.cons_append, List.reverse_append]
    exact List.dropWhile_cons_of_neg (by simp [hd])
  rw [prepared, hfront, hback, List.reverse_reverse]

theorem withoutUser_of_not_mem {s : List Char} (h : '@' ∉ s) : withoutUser s = s := by
  have hall : ∀ c ∈ s.reverse, (c != '@') = true := fun c hc =>
    bne_iff_ne.mpr fun heq => h (heq ▸ List.mem_reverse.mp hc)
  rw [withoutUser, List.takeWhile_eq_self_iff.mpr hall, List.reverse_reverse]

namespace Authority

variable (a : Authority)

theorem prepared_text : a.text.filter (fun c => !isTabOrNewline c) = a.text :=
  List.filter_eq_self.mpr fun c hc => by rw [(a.plain c hc).2.2]; rfl

theorem parts_text : hostAndPort false a.text = (a.hostText, some a.portText) := a.parts

variable {a} in
theorem isSlash_of_mem {c : Char} (hc : c ∈ a.text) : isSlash c = false :=
  (endsAuthority_eq_false_iff.mp (a.plain c hc).1).1

theorem text_ne_nil : a.text ≠ [] := by
  simp [text]

theorem dropWhile_slashes (n : Nat) (rest : List Char) :
    (List.replicate n '/' ++ (a.text ++ rest)).dropWhile isSlash = a.text ++ rest := by
  have hslashes : ∀ c ∈ List.replicate n '/', isSlash c = true := fun c hc => by
    rw [List.eq_of_mem_replicate hc]
    rfl
  obtain ⟨c, s, hs⟩ := List.exists_cons_of_ne_nil a.text_ne_nil
  have hc : isSlash c = false := isSlash_of_mem (hs ▸ List.mem_cons_self)
  rw [List.dropWhile_append_of_pos hslashes, hs, List.cons_append,
    List.dropWhile_cons_of_neg (by simp [hc])]

/-- The URL in which a slash and `rest` come after the port. -/
def url (rest : List Char) : Url where
  secure := false
  host := a.host
  port := a.port
  path := segments ((('/' :: rest).takeWhile (· != '#')).takeWhile (· != '?'))
  query := (after? '?' (('/' :: rest).takeWhile (· != '#'))).map fun q => q.flatMap encodeInQuery
  fragment := (after? '#' ('/' :: rest)).map fun f => f.flatMap encodeInFragment

theorem ofText?_eq {text : String} {rest : List Char}
    (h : prepared text.toList = "http://".toList ++ (a.text ++ '/' :: rest)) :
    ofText? text = some (a.url rest) := by
  have hends : ∀ c ∈ a.text, (!endsAuthority c) = true := fun c hc => by
    rw [(a.plain c hc).1]
    rfl
  have htake : (a.text ++ '/' :: rest).takeWhile (fun c => !endsAuthority c) = a.text := by
    rw [List.takeWhile_append_of_pos hends]
    exact List.append_nil _
  have hdrop : (a.text ++ '/' :: rest).dropWhile (fun c => !endsAuthority c) = '/' :: rest :=
    List.dropWhile_append_of_pos hends
  have huser : withoutUser a.text = a.text :=
    withoutUser_of_not_mem fun hat => (a.plain '@' hat).2.1 rfl
  rw [ofText?, h]
  have hscheme : scheme? ("http://".toList ++ (a.text ++ '/' :: rest)) =
      some ("http".toList, '/' :: '/' :: (a.text ++ '/' :: rest)) := rfl
  have hslashes : ('/' :: '/' :: (a.text ++ '/' :: rest)).dropWhile isSlash =
      a.text ++ '/' :: rest := a.dropWhile_slashes 2 _
  have hhttp : ¬ ("http".toList ≠ "http".toList ∧ "http".toList ≠ "https".toList) := by decide
  have hplain : decide ("http".toList = "https".toList) = false := by decide
  simp only [hscheme, hslashes, htake, hdrop, huser, a.parts_text, a.readHost, hplain, a.readPort,
    Option.bind_eq_bind, Option.bind_some, if_neg hhttp]
  rfl

/-- Without marks all that comes after the port is the path. -/
theorem url_of_no_mark {rest : List Char} (h : ∀ c ∈ rest, c ≠ '?' ∧ c ≠ '#') :
    (a.url rest).path = segments ('/' :: rest) ∧ (a.url rest).query = none := by
  have hhash : ('/' :: rest).takeWhile (· != '#') = '/' :: rest :=
    List.takeWhile_eq_self_iff.mpr <| List.forall_mem_cons.mpr
      ⟨rfl, fun c hc => bne_iff_ne.mpr (h c hc).2⟩
  have hmark : ∀ c ∈ '/' :: rest, (c != '?') = true :=
    List.forall_mem_cons.mpr ⟨rfl, fun c hc => bne_iff_ne.mpr (h c hc).1⟩
  constructor
  · rw [url, hhash, List.takeWhile_eq_self_iff.mpr hmark]
  · rw [url, hhash, after?, List.dropWhile_eq_nil_iff.mpr hmark]
    rfl

end Authority

end HostAlert.Http.Url
