import Mathlib.Data.List.Sort
import HostAlert.Address.Selection
import HostAlert.Proofs.Address.Reading

/-!
# What a selection shows

A selection is the sorted set of the texts of the addresses that qualify, and which qualify depends
on the set of hosts named alone (`mem_select_iff`). So neither order nor repetition nor the writing
of an address in IPv6 matters, and the addresses shown select themselves (`select_determined`).
-/

namespace HostAlert.Address

/-! ### Writing in IPv6 -/

/-- The IPv6 address that an IPv4 address is mapped to. -/
def V4.inV6 (a : V4) : V6 :=
  ⟨0, 0, 0, 0, 0, 0xFFFF, a.b0.toUInt16 * 256 + a.b1.toUInt16, a.b2.toUInt16 * 256 + a.b3.toUInt16⟩

def Ip.inV6 : Ip → Ip
  | v4 a => v6 a.inV6
  | v6 a => v6 a

theorem halves_joined (b c : UInt8) :
    ((b.toUInt16 * 256 + c.toUInt16) / 256).toUInt8 = b ∧
      ((b.toUInt16 * 256 + c.toUInt16) % 256).toUInt8 = c := by
  have hb := b.toNat_lt
  have hc := c.toNat_lt
  rw [← UInt8.toNat_inj, ← UInt8.toNat_inj]
  simp only [UInt16.toNat_add, UInt16.toNat_mul, UInt8.toNat_toUInt16, UInt16.toNat_toUInt8,
    UInt16.toNat_div, UInt16.toNat_mod, UInt16.reduceToNat]
  omega

theorem V4.mapped?_inV6 (a : V4) : a.inV6.mapped? = some a := by
  obtain ⟨h0, h1⟩ := halves_joined a.b0 a.b1
  obtain ⟨h2, h3⟩ := halves_joined a.b2 a.b3
  simp [V4.inV6, V6.mapped?, h0, h1, h2, h3]

namespace Ip

theorem canonical_inV6 (a : Ip) : a.inV6.canonical = a.canonical := by
  cases a with
  | v4 a => simp [inV6, canonical, V4.mapped?_inV6]
  | v6 a => rfl

theorem canonical_canonical (a : Ip) : a.canonical.canonical = a.canonical := by
  cases a with
  | v4 a => rfl
  | v6 a => cases h : a.mapped? <;> simp [canonical, h]

/-- The address is private, and neither loopback nor link-local. -/
def IsLocal (a : Ip) : Prop :=
  a.isPrivate = true ∧ a.isLoopback = false ∧ a.isLinkLocal = false

/-- The address names one host beyond the link: it is neither loopback, link-local, unspecified,
multicast nor broadcast. -/
def IsHost (a : Ip) : Prop :=
  a.isLoopback = false ∧ a.isLinkLocal = false ∧ a.isUnspecified = false ∧ a.isMulticast = false ∧
    a.isBroadcast = false

end Ip

/-! ### What is selected -/

/-- The address qualifies among others: it is local, or there is none that is and it names one host
beyond the link. -/
def Qualifies (addresses : List Ip) (a : Ip) : Prop :=
  a ∈ addresses.map Ip.canonical ∧
    (a.IsLocal ∨ a.IsHost ∧ ∀ b ∈ addresses.map Ip.canonical, ¬ b.IsLocal)

theorem isLocal_iff {a : Ip} : a.IsLocal ↔ isReachable a = true ∧ a.isPrivate = true := by
  simp only [Ip.IsLocal, isReachable, Bool.and_eq_true, Bool.not_eq_true']
  tauto

theorem isHost_iff {a : Ip} : a.IsHost ↔ isReachable a = true ∧ a.isUnicast = true := by
  simp only [Ip.IsHost, isReachable, Ip.isUnicast, Bool.and_eq_true, Bool.not_eq_true']
  tauto

theorem mem_select_iff {addresses : List Ip} {t : String} :
    t ∈ select addresses ↔ ∃ a, Qualifies addresses a ∧ a.toText = t := by
  have hlocals (a : Ip) :
      a ∈ ((addresses.map Ip.canonical).filter isReachable).filter Ip.isPrivate ↔
        a ∈ addresses.map Ip.canonical ∧ a.IsLocal := by
    rw [List.mem_filter, List.mem_filter, isLocal_iff, and_assoc]
  have hhosts (a : Ip) :
      a ∈ ((addresses.map Ip.canonical).filter isReachable).filter Ip.isUnicast ↔
        a ∈ addresses.map Ip.canonical ∧ a.IsHost := by
    rw [List.mem_filter, List.mem_filter, isHost_iff, and_assoc]
  rw [select, mem_sortedTexts, List.mem_map]
  refine exists_congr fun a => and_congr_left fun _ => ?_
  split
  · next hnone =>
    have hno : ∀ b ∈ addresses.map Ip.canonical, ¬ b.IsLocal := fun b hb hlocal => by
      have hmem := (hlocals b).mpr ⟨hb, hlocal⟩
      rw [List.isEmpty_iff.mp hnone] at hmem
      cases hmem
    rw [hhosts]
    exact and_congr_right fun ha => ⟨fun h => .inr ⟨h, hno⟩, fun h => h.elim
      (fun h => (hno a ha h).elim) And.left⟩
  · next hsome =>
    obtain ⟨b, hb⟩ := List.exists_mem_of_ne_nil _ (mt List.isEmpty_iff.mpr hsome)
    obtain ⟨hb, hlocal⟩ := (hlocals b).mp hb
    rw [hlocals]
    exact and_congr_right fun _ => ⟨.inl, fun h => h.elim id fun h => (h.2 b hb hlocal).elim⟩

theorem select_eq_of_qualifies {l l' : List Ip} (h : ∀ a, Qualifies l a ↔ Qualifies l' a) :
    select l = select l' := by
  refine List.Pairwise.eq_of_mem_iff (pairwise_sortedTexts _) (pairwise_sortedTexts _) fun t => ?_
  show t ∈ select l ↔ t ∈ select l'
  rw [mem_select_iff, mem_select_iff]
  exact exists_congr fun a => and_congr_left fun _ => h a

theorem qualifies_congr {l l' : List Ip}
    (h : ∀ a, a ∈ l.map Ip.canonical ↔ a ∈ l'.map Ip.canonical) (a : Ip) :
    Qualifies l a ↔ Qualifies l' a := by
  simp only [Qualifies, h]

theorem Qualifies.canonical {l : List Ip} {a : Ip} (h : Qualifies l a) : a.canonical = a := by
  obtain ⟨b, -, rfl⟩ := List.mem_map.mp h.1
  exact b.canonical_canonical

theorem qualifies_of_qualifying {l shown : List Ip} (h : ∀ a, a ∈ shown ↔ Qualifies l a) (a : Ip) :
    Qualifies shown a ↔ Qualifies l a := by
  have hcanonical : shown.map Ip.canonical = shown := by
    conv_rhs => rw [← List.map_id shown]
    exact List.map_congr_left fun a ha => ((h a).mp ha).canonical
  rw [Qualifies, hcanonical, h]
  refine and_iff_left_of_imp fun ha => ?_
  obtain hlocal | ⟨hhost, hno⟩ := ha.2
  · exact .inl hlocal
  · exact .inr ⟨hhost, fun b hb => hno b ((h b).mp hb).1⟩

/-- A selection is strictly increasing and holds the texts of the addresses that qualify: the local
ones if there is any, and else those that name one host beyond the link. Each is the text of one
canonical address, as which it is read. Listing addresses in another order, more than once or in
IPv6 changes nothing, and the addresses shown select themselves. -/
theorem select_determined (addresses : List Ip) :
    (select addresses).Pairwise (· < ·) ∧
    (∀ t, t ∈ select addresses ↔ ∃ a ∈ addresses.map Ip.canonical, a.toText = t ∧
      (a.IsLocal ∨ a.IsHost ∧ ∀ b ∈ addresses.map Ip.canonical, ¬ b.IsLocal)) ∧
    (∀ others : List Ip,
      (∀ a ∈ addresses, ∃ b ∈ others, a = b ∨ a = b.inV6 ∨ a.inV6 = b) →
      (∀ b ∈ others, ∃ a ∈ addresses, a = b ∨ a = b.inV6 ∨ a.inV6 = b) →
      select others = select addresses) ∧
    (∀ t ∈ select addresses, ∃ a, Ip.ofText? t = some a ∧ a.toText = t ∧ a.canonical = a) ∧
    select ((select addresses).filterMap Ip.ofText?) = select addresses := by
  refine ⟨pairwise_sortedTexts _, fun t => ?_, fun others hothers hback => ?_, fun t ht => ?_, ?_⟩
  · rw [mem_select_iff]
    exact exists_congr fun a => and_right_comm.trans and_assoc
  · have hsame {a b : Ip} (h : a = b ∨ a = b.inV6 ∨ a.inV6 = b) : a.canonical = b.canonical := by
      obtain rfl | rfl | rfl := h
      · rfl
      · exact b.canonical_inV6
      · exact a.canonical_inV6.symm
    refine select_eq_of_qualifies (qualifies_congr fun c => ?_)
    rw [List.mem_map, List.mem_map]
    constructor
    · rintro ⟨b, hb, rfl⟩
      obtain ⟨a, ha, h⟩ := hback b hb
      exact ⟨a, ha, hsame h⟩
    · rintro ⟨a, ha, rfl⟩
      obtain ⟨b, hb, h⟩ := hothers a ha
      exact ⟨b, hb, (hsame h).symm⟩
  · obtain ⟨a, ha, rfl⟩ := mem_select_iff.mp ht
    exact ⟨a, a.ofText?_toText, rfl, ha.canonical⟩
  · refine select_eq_of_qualifies (qualifies_of_qualifying fun a => ?_)
    rw [List.mem_filterMap]
    constructor
    · rintro ⟨t, ht, hread⟩
      obtain ⟨b, hb, rfl⟩ := mem_select_iff.mp ht
      rw [Ip.ofText?_toText] at hread
      exact Option.some.inj hread ▸ hb
    · intro ha
      exact ⟨a.toText, mem_select_iff.mpr ⟨a, ha, rfl⟩, a.ofText?_toText⟩

namespace Sample

def plain : List Ip := [.v4 ⟨203, 0, 113, 5⟩, .v4 ⟨10, 0, 0, 2⟩, .v4 ⟨192, 168, 1, 20⟩]

/-- The same in another order, one of them twice and once in IPv6. -/
def shuffled : List Ip :=
  [.v4 ⟨192, 168, 1, 20⟩, .v6 (V4.inV6 ⟨10, 0, 0, 2⟩), .v4 ⟨203, 0, 113, 5⟩, .v4 ⟨10, 0, 0, 2⟩]

theorem shuffled_shows_plain :
    (∀ a ∈ plain, ∃ b ∈ shuffled, a = b ∨ a = b.inV6 ∨ a.inV6 = b) ∧
    (∀ b ∈ shuffled, ∃ a ∈ plain, a = b ∨ a = b.inV6 ∨ a.inV6 = b) ∧
    select plain = ["10.0.0.2", "192.168.1.20"] ∧ select shuffled = select plain := by
  have hplain : ∀ a ∈ plain, ∃ b ∈ shuffled, a = b ∨ a = b.inV6 ∨ a.inV6 = b := by decide
  have hshuffled : ∀ b ∈ shuffled, ∃ a ∈ plain, a = b ∨ a = b.inV6 ∨ a.inV6 = b := by decide
  refine ⟨hplain, hshuffled, by decide +kernel, ?_⟩
  exact (select_determined plain).2.2.1 shuffled hplain hshuffled

end Sample

end HostAlert.Address
