import HostAlert.Proofs.Json.Steady

/-!
# Objects without all members

The `Layout` of a record says which parts it has, each with a member of its own. An object may give
any of them in any order, among members that the layout does not know. It is then read as the
starting value with these parts replaced and no others (`Layout.document_gives`), so that only the
known members matter, and not their order (`Layout.decodes`).
-/

namespace HostAlert.Json

theorem IsItems.values {items : List Item} {s : Bytes} (h : IsItems .curly items s) :
    ∀ i ∈ items, IsValue i.value := by
  induction items generalizing s with
  | nil => nofun
  | cons i items ih =>
    cases h with
    | last _ hvalue => exact List.forall_mem_singleton.mpr hvalue
    | more _ hvalue _ _ rest => exact List.forall_mem_cons.mpr ⟨hvalue, ih rest⟩

theorem IsObject.values {items : List Item} {s : Bytes} (h : IsObject items s) :
    ∀ i ∈ items, IsValue i.value := by
  cases h with
  | empty => nofun
  | items _ h => exact h.values

instance {α : Type} (read : Reader α) (v : Bytes) : Decidable (∃ a, read v = .ok (a, [])) :=
  match read v with
  | .ok (a, []) => .isTrue ⟨a, rfl⟩
  | .ok (_, _ :: _) | .error _ => .isFalse nofun

variable {σ : Type}

/-- A part of a record with its member. -/
structure Field (σ : Type) where
  {α : Type}
  name : String
  read : Reader α
  put : σ → α → σ
  get : σ → α
  steady : Steady read
  get_put : ∀ record a, get (put record a) = a

namespace Field

def member (f : Field σ) : Member σ :=
  .of f.name .kept f.read f.put

/-- The two parts have different names, and neither bears on the other. -/
structure Apart (f g : Field σ) : Prop where
  name : f.name ≠ g.name
  left : ∀ record a, g.get (f.put record a) = g.get record
  right : ∀ record a, f.get (g.put record a) = f.get record

instance : Std.Symm (Apart (σ := σ)) where
  symm _ _ h := ⟨h.name.symm, h.right, h.left⟩

end Field

structure Layout (σ : Type) where
  fields : List (Field σ)
  apart : fields.Pairwise Field.Apart
  whole : ∀ record record', (∀ f ∈ fields, f.get record = f.get record') → record = record'

namespace Layout

variable {l : Layout σ} {f g : Field σ} {items items' : List Item} {body body' : Bytes}
  {start record record' : σ}

def members (l : Layout σ) : List (Member σ) :=
  l.fields.map Field.member

def knows (l : Layout σ) (i : Item) : Bool :=
  l.fields.any fun f => i.name == codes f.name

/-- The body is a JSON text of an object with these items. No part of the record is given twice, and
each value is one that the reader of its part takes. -/
structure Gives (l : Layout σ) (items : List Item) (body : Bytes) : Prop where
  text : ∃ lead object trail, body = lead ++ (object ++ trail) ∧ Blank lead ∧ Blank trail ∧
    IsObject items object
  once : ∀ f ∈ l.fields, items.Pairwise fun i j => i.name = codes f.name → j.name ≠ codes f.name
  taken : ∀ f ∈ l.fields, ∀ i ∈ items, i.name = codes f.name → ∃ a, f.read i.value = .ok (a, [])

/-- The record has the parts that the items give, and those of the starting value otherwise. -/
structure Overrides (l : Layout σ) (start : σ) (items : List Item) (record : σ) : Prop where
  given : ∀ f ∈ l.fields, ∀ i ∈ items, i.name = codes f.name →
    f.read i.value = .ok (f.get record, [])
  kept : ∀ f ∈ l.fields, (∀ i ∈ items, i.name ≠ codes f.name) → f.get record = f.get start

theorem apart_of_ne (hf : f ∈ l.fields) (hg : g ∈ l.fields) (hne : f ≠ g) : f.Apart g :=
  l.apart.forall hf hg hne

theorem of_find?_eq_some {m : Member σ} {name : String}
    (h : Member.find? l.members name = some m) :
    ∃ f ∈ l.fields, f.name = name ∧ f.member = m := by
  obtain ⟨f, hf, rfl⟩ := List.mem_map.mp (List.mem_of_find?_eq_some h)
  exact ⟨f, hf, beq_iff_eq.mp (List.find?_some h :), rfl⟩

theorem of_find?_eq_none {name : String} (h : Member.find? l.members name = none)
    (hf : f ∈ l.fields) : f.name ≠ name := by
  have hne := List.find?_eq_none.mp h f.member (List.mem_map_of_mem hf)
  exact mt beq_iff_eq.mpr hne

theorem complete_members (seen : List String) : Member.complete l.members seen = true := by
  refine List.all_eq_true.mpr fun m hm => ?_
  obtain ⟨f, -, rfl⟩ := List.mem_map.mp hm
  rfl

theorem Overrides.cons {i : Item} (hf : f ∈ l.fields) (hname : i.name = codes f.name) {a : f.α}
    (taken : f.read i.value = .ok (a, [])) (alone : ∀ j ∈ items, j.name ≠ codes f.name)
    (h : l.Overrides (f.put start a) items record) : l.Overrides start (i :: items) record := by
  constructor
  · intro g hg j hj hjname
    rcases List.mem_cons.mp hj with rfl | hj
    · by_cases heq : f = g
      · subst heq
        rw [h.kept f hf alone, f.get_put]
        exact taken
      · have hcodes : codes f.name = codes g.name := hname.symm.trans hjname
        refine absurd ?_ (apart_of_ne hf hg heq).name
        rw [← textOf_codes f.name, hcodes, textOf_codes]
    · exact h.given g hg j hj hjname
  · intro g hg missing
    have hne : f ≠ g := by
      rintro rfl
      exact missing i List.mem_cons_self hname
    rw [h.kept g hg fun j hj => missing j (List.mem_cons_of_mem _ hj)]
    exact (apart_of_ne hf hg hne).left start a

theorem exists_reads (values : ∀ i ∈ items, IsValue i.value)
    (named : ∀ i ∈ items, ∀ name, textOf i.name = name ↔ i.name = codes name)
    (once : ∀ f ∈ l.fields, items.Pairwise fun i j => i.name = codes f.name → j.name ≠ codes f.name)
    (taken : ∀ f ∈ l.fields, ∀ i ∈ items, i.name = codes f.name →
      ∃ a, f.read i.value = .ok (a, []))
    (seen : List String) (fresh : ∀ f ∈ l.fields, seen.contains f.name = true →
      ∀ i ∈ items, i.name ≠ codes f.name) (start : σ) :
    ∃ seen' record, Reads l.members seen start items seen' record ∧
      l.Overrides start items record := by
  induction items generalizing seen start with
  | nil => exact ⟨seen, start, .nil, nofun, fun _ _ _ => rfl⟩
  | cons i items ih =>
    have ih' := @ih (fun j hj => values j (List.mem_cons_of_mem _ hj))
      (fun j hj => named j (List.mem_cons_of_mem _ hj))
      (fun f hf => (List.pairwise_cons.mp (once f hf)).2)
      (fun f hf j hj => taken f hf j (List.mem_cons_of_mem _ hj))
    have hnamed := named i List.mem_cons_self
    cases hfind : Member.find? l.members (textOf i.name) with
    | none =>
      have hother : ∀ f ∈ l.fields, i.name ≠ codes f.name := fun f hf hname =>
        of_find?_eq_none hfind hf ((hnamed _).mpr hname).symm
      obtain ⟨seen', record, reads, overrides⟩ :=
        ih' seen (fun f hf hseen j hj => fresh f hf hseen j (List.mem_cons_of_mem _ hj)) start
      refine ⟨seen', record, .unknown hfind reads, fun f hf j hj hname => ?_,
        fun f hf missing => ?_⟩
      · rcases List.mem_cons.mp hj with rfl | hj
        · exact absurd hname (hother f hf)
        · exact overrides.given f hf j hj hname
      · exact overrides.kept f hf fun j hj => missing j (List.mem_cons_of_mem _ hj)
    | some m =>
      obtain ⟨f, hf, hfname, rfl⟩ := of_find?_eq_some hfind
      have hname : i.name = codes f.name := (hnamed _).mp hfname.symm
      have alone : ∀ j ∈ items, j.name ≠ codes f.name := fun j hj =>
        (List.pairwise_cons.mp (once f hf)).1 j hj hname
      obtain ⟨a, htaken⟩ := taken f hf i List.mem_cons_self hname
      have hnew : seen.contains (textOf i.name) = false := by
        rw [← hfname, Bool.eq_false_iff]
        exact fun hseen => fresh f hf hseen i List.mem_cons_self hname
      have hfresh : ∀ g ∈ l.fields, (textOf i.name :: seen).contains g.name = true →
          ∀ j ∈ items, j.name ≠ codes g.name := by
        intro g hg hseen j hj
        rw [List.contains_cons, Bool.or_eq_true, beq_iff_eq] at hseen
        rcases hseen with heq | hseen
        · rw [heq, ← hfname]
          exact alone j hj
        · exact fresh g hg hseen j (List.mem_cons_of_mem _ hj)
      obtain ⟨seen', record, reads, overrides⟩ := ih' _ hfresh (f.put start a)
      refine ⟨seen', record, .known hfind hnew (fun lead rest hlead hrest => ?_) reads,
        overrides.cons hf hname htaken alone⟩
      show (f.read (lead ++ (i.value ++ rest))).map _ = _
      rw [f.steady i.value a (values i List.mem_cons_self) htaken lead rest hlead hrest]
      rfl

/-- An object is read as the starting value with the parts replaced that it gives. -/
theorem document_gives (h : l.Gives items body)
    (paired : ∀ i ∈ items, ∀ n ∈ i.name, isSurrogate n = false) (start : σ) :
    ∃ record, document (Json.record l.members start) body = .ok record ∧
      l.Overrides start items record := by
  obtain ⟨lead, object, trail, rfl, hlead, htrail, hobject⟩ := h.text
  obtain ⟨seen, record, reads, overrides⟩ := exists_reads hobject.values
    (fun i hi => hobject.textOf_eq_iff hi (paired i hi)) h.once h.taken [] nofun start
  have hrecord := record_object hobject paired reads (complete_members seen) hlead trail
  exact ⟨record, document_of_blank hrecord htrail, overrides⟩

theorem mem_known (hf : f ∈ l.fields) {i : Item} (hi : i ∈ items) (hname : i.name = codes f.name) :
    i ∈ items.filter l.knows :=
  List.mem_filter.mpr ⟨hi, List.any_eq_true.mpr ⟨f, hf, beq_iff_eq.mpr hname⟩⟩

/-- What is replaced depends on the known items alone. -/
theorem Overrides.unique (h : l.Overrides start items record)
    (h' : l.Overrides start items' record')
    (same : (items.filter l.knows).Perm (items'.filter l.knows)) : record = record' := by
  refine l.whole _ _ fun f hf => ?_
  by_cases hgiven : ∃ i ∈ items, i.name = codes f.name
  · obtain ⟨i, hi, hname⟩ := hgiven
    have hi' := (List.mem_filter.mp (same.mem_iff.mp (mem_known hf hi hname))).1
    have heq := (h.given f hf i hi hname).symm.trans (h'.given f hf i hi' hname)
    exact (Prod.mk.inj (Except.ok.inj heq)).1
  · have missing : ∀ i ∈ items, i.name ≠ codes f.name := fun i hi hname => hgiven ⟨i, hi, hname⟩
    have missing' : ∀ i ∈ items', i.name ≠ codes f.name := fun i hi hname =>
      missing i (List.mem_filter.mp (same.mem_iff.mpr (mem_known hf hi hname))).1 hname
    exact (h.kept f hf missing).trans (h'.kept f hf missing').symm

/-- The reader takes every object with these parts as the starting value with the given parts
replaced. Only the known items matter, and not their order. -/
structure Decodes (l : Layout σ) (read : Reader σ) (start : σ) : Prop where
  overrides : ∀ items body, l.Gives items body →
    (∀ i ∈ items, ∀ n ∈ i.name, isSurrogate n = false) →
    ∃ record, document read body = .ok record ∧ l.Overrides start items record
  stable : ∀ items items' body body', l.Gives items body → l.Gives items' body' →
    (∀ i ∈ items, ∀ n ∈ i.name, isSurrogate n = false) →
    (∀ i ∈ items', ∀ n ∈ i.name, isSurrogate n = false) →
    (items.filter l.knows).Perm (items'.filter l.knows) → document read body = document read body'

theorem decodes (l : Layout σ) (start : σ) : l.Decodes (Json.record l.members start) start where
  overrides items body h paired := document_gives h paired start
  stable items items' body body' h h' paired paired' same := by
    obtain ⟨record, hread, overrides⟩ := document_gives h paired start
    obtain ⟨record', hread', overrides'⟩ := document_gives h' paired' start
    rw [hread, hread', overrides.unique overrides' same]

end Layout

end HostAlert.Json
