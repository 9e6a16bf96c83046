import SpanBridge.Proofs.Address.Ipv6

/-!
# The texts of an address

`Address.Spells` says which texts stand for an address, and these are the texts that are read as it
(`parse?_eq_some_iff`). Every address that was read has a canonical text, and reading this text
gives the address again (`parse?_text_of_parse?`). Addresses that nobody read may have a zone which
no text can carry; `Address.IsReadable` leaves these out.
-/

set_option autoImplicit false
set_option relaxedAutoImplicit false

namespace SpanBridge.Address

/-- An address that some text stands for: its zone, if it has one, can be read. -/
def IsReadable : Address → Prop
  | .v4 _ => True
  | .v6 address =>
    address.HasReadableZone ∧ ∀ zone, address.zone = some zone → '/' ∉ zone.toList

/-- The texts of an address: of version four the canonical one alone, of version six all that spell
its groups, with the zone after them. -/
inductive Spells : Address → String → Prop where
  | v4 (address : Ipv4) : Spells (.v4 address) address.text
  | v6 {address : Ipv6} {body : List Char} (hbody : Ipv6.SpellsBody address.groups body)
      (hzone : (v6 address).IsReadable) :
    Spells (.v6 address) (String.ofList body ++ Ipv6.zoneText address.zone)

theorem slash_not_mem_text_v4 (address : Ipv4) : '/' ∉ address.text.toList := fun hmem ↦
  absurd (Ipv4.isDigit_or_point_of_mem_text hmem) (by decide)

/-- A text that spells an IPv6 address is no IPv4 address: it holds a colon. -/
theorem ipv4_parse?_of_spellsBody {groups : List UInt16} {body : List Char}
    (h : Ipv6.SpellsBody groups body) (rest : List Char) : Ipv4.parse? (body ++ rest) = none := by
  refine Option.eq_none_iff_forall_ne_some.2 fun address haddress ↦ ?_
  have hcolon := List.mem_append_left rest (Ipv6.colon_mem_of_spellsBody h)
  rw [Ipv4.parse?_eq_some_iff.1 haddress] at hcolon
  exact absurd (Ipv4.isDigit_or_point_of_mem_text hcolon) (by decide)

/-- A zone brings a slash into the text of an address only if its name has one. -/
theorem slash_not_mem_zoneText_iff (zone : Option String) :
    '/' ∉ (Ipv6.zoneText zone).toList ↔ ∀ name, zone = some name → '/' ∉ name.toList := by
  cases zone with
  | none => simp [Ipv6.zoneText]
  | some name => simp [Ipv6.toList_zoneText]

/-- The texts that are read as an address are those that spell it. -/
theorem parse?_eq_some_iff {text : String} {address : Address} :
    parse? text = some address ↔ Spells address text := by
  constructor
  · intro h
    unfold parse? at h
    split at h
    · cases h
    next hslash =>
    rw [Option.or_eq_some_iff, Option.map_eq_some_iff] at h
    rcases h with ⟨v4, hv4, rfl⟩ | ⟨-, h⟩
    · obtain rfl := String.toList_inj.1 (Ipv4.parse?_eq_some_iff.1 hv4)
      exact .v4 v4
    · obtain ⟨v6, hv6, rfl⟩ := Option.map_eq_some_iff.1 h
      obtain ⟨body, hbody, hzone, hchars⟩ := Ipv6.parse?_eq_some_iff.1 hv6
      have htext : text = String.ofList body ++ Ipv6.zoneText v6.zone := by
        rw [← String.toList_inj, hchars, String.toList_append, String.toList_ofList]
      rw [htext]
      refine .v6 hbody ⟨hzone, (slash_not_mem_zoneText_iff _).1 fun hmem ↦ hslash ?_⟩
      rw [List.contains_iff_mem, hchars]
      exact List.mem_append_right _ hmem
  · rintro (address | ⟨hbody, hreadable⟩)
    · simp [parse?, slash_not_mem_text_v4 address, Ipv4.parse?_text]
    · next address body =>
      have hslash : '/' ∉ body ++ (Ipv6.zoneText address.zone).toList := by
        rw [List.mem_append, not_or, slash_not_mem_zoneText_iff]
        exact ⟨fun hmem ↦ Ipv6.plain_of_spellsBody hbody '/' hmem (by simp), hreadable.2⟩
      rw [parse?, String.toList_append, String.toList_ofList,
        if_neg (mt List.contains_iff_mem.1 hslash), ipv4_parse?_of_spellsBody hbody,
        Ipv6.parse?_eq_some_iff.2 ⟨body, hbody, hreadable.1, rfl⟩]
      rfl

/-- What is read are the spellings of an address, and no other text. -/
theorem parse_eq_ok_iff {text : String} {address : Address} :
    parse text = .ok address ↔ Spells address text := by
  rw [← parse?_eq_some_iff, parse]
  cases parse? text <;> simp

/-- An address with a spelling is one that can be read back. -/
theorem isReadable_of_spells {text : String} {address : Address} (h : Spells address text) :
    address.IsReadable := by
  cases h with
  | v4 => trivial
  | v6 _ hreadable => exact hreadable

/-- The canonical text of an address that some text stands for is one of its texts. -/
theorem spells_text {address : Address} (h : address.IsReadable) : Spells address address.text := by
  cases address with
  | v4 address => exact .v4 address
  | v6 address =>
    have hspells := Spells.v6 (Ipv6.spellsBody_bodyText address.eight) h
    rwa [String.ofList_toList] at hspells

/-- The canonical text of an address that some text stands for is read back as the address. -/
theorem parse?_text {address : Address} (h : address.IsReadable) :
    parse? address.text = some address :=
  parse?_eq_some_iff.2 (spells_text h)

/-- The canonical text of an address that was read stands for the same address. -/
theorem parse?_text_of_parse? {given : String} {address : Address}
    (h : parse? given = some address) : parse? address.text = some address :=
  parse?_text (isReadable_of_spells (parse?_eq_some_iff.1 h))

end SpanBridge.Address
