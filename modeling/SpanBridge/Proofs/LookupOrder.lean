import Mathlib.Logic.Relation
import SpanBridge.Proofs.LocalAddress

/-!
# What matters in a resolution

The reply to a lookup is the text of the first usable address of version four, or else of the first
usable one (`IsPreferred`). So neither do entries matter that hold no usable address or one that
came before (`IsSuperfluous`), nor how the addresses of the two versions are mixed
(`Rearranges`): changes of this kind, in either direction and any number of them, leave the reply
as it is (`reply_is_preferred`).
-/

set_option autoImplicit false
set_option relaxedAutoImplicit false

namespace SpanBridge.LocalAddress

/-! ### Entries -/

/-- The address that an entry of a resolution holds, if it is of an IP family. -/
def addressOf? (entry : AddressFamily × String) : Option Address :=
  if entry.1.isIp then Address.parse? (withoutZone entry.2) else none

/-- Whether an entry holds an address of version four. -/
def holdsV4 (entry : AddressFamily × String) : Bool := (addressOf? entry).any Address.isV4

/-- Whether an entry holds an address of version six. -/
def holdsV6 (entry : AddressFamily × String) : Bool :=
  (addressOf? entry).any fun address ↦ !address.isV4

/-- All entries of an IP family hold an address. -/
def AllHold (found : List (AddressFamily × String)) : Prop :=
  ∀ entry ∈ found, entry.1.isIp = true → (addressOf? entry).isSome = true

/-- The addresses that candidates spell are the ones read from the entries, where all hold one. -/
theorem forall₂_spells_iff {found : List (AddressFamily × String)} {addresses : List Address} :
    List.Forall₂ Address.Spells addresses (candidates found) ↔
      AllHold found ∧ addresses = found.filterMap addressOf? := by
  induction found generalizing addresses with
  | nil => simp [candidates, AllHold]
  | cons entry found ih =>
    rw [AllHold, List.forall_mem_cons]
    cases hfamily : entry.1.isIp with
    | false =>
      have hnone : addressOf? entry = none := by simp [addressOf?, hfamily]
      have hcandidates : candidates (entry :: found) = candidates found := by
        simp [candidates, hfamily]
      rw [hcandidates, ih, List.filterMap_cons_none hnone]
      simp [AllHold]
    | true =>
      have hcandidates : candidates (entry :: found) =
          withoutZone entry.2 :: candidates found := by
        simp [candidates, hfamily]
      have hparse : addressOf? entry = Address.parse? (withoutZone entry.2) := by
        simp [addressOf?, hfamily]
      rw [hcandidates, List.forall₂_cons_right_iff]
      cases haddress : addressOf? entry with
      | none =>
        have hspells : ∀ address, ¬Address.Spells address (withoutZone entry.2) := by
          intro address hspells
          rw [← Address.parse?_eq_some_iff, ← hparse, haddress] at hspells
          cases hspells
        simp [hspells]
      | some address =>
        have hspells : ∀ other, Address.Spells other (withoutZone entry.2) ↔ other = address := by
          intro other
          rw [← Address.parse?_eq_some_iff, ← hparse, haddress, Option.some.injEq, eq_comm]
        simp only [hspells, ih, List.filterMap_cons_some haddress]
        constructor
        · rintro ⟨_, _, rfl, ⟨hall, rfl⟩, rfl⟩
          exact ⟨⟨fun _ ↦ rfl, hall⟩, rfl⟩
        · rintro ⟨⟨-, hall⟩, rfl⟩
          exact ⟨address, _, rfl, ⟨hall, rfl⟩, rfl⟩

/-- An answer is selected exactly when every entry holds an address. -/
theorem select_eq_ok_iff_allHold {found : List (AddressFamily × String)} {answer : Option String} :
    select found = .ok answer ↔
      AllHold found ∧ (preferred (found.filterMap addressOf?)).map Address.text = answer := by
  simp only [select_eq_ok_iff, forall₂_spells_iff]
  constructor
  · rintro ⟨addresses, ⟨hall, rfl⟩, hanswer⟩
    exact ⟨hall, hanswer⟩
  · rintro ⟨hall, hanswer⟩
    exact ⟨_, ⟨hall, rfl⟩, hanswer⟩

/-! ### What does not matter -/

/-- An entry that adds nothing to those before it: it is of another family, or its address cannot be
used by other hosts or was there before. -/
inductive IsSuperfluous (before : List (AddressFamily × String)) (entry : AddressFamily × String) :
    Prop where
  | otherFamily (hfamily : entry.1.isIp = false)
  | unusable (address : Address) (haddress : addressOf? entry = some address)
    (hunusable : address.isUsable = false)
  | repeated (address : Address) (haddress : addressOf? entry = some address)
    (earlier : AddressFamily × String) (hearlier : earlier ∈ before)
    (hsame : addressOf? earlier = some address)

/-- The changes of a resolution that do not matter: a superfluous entry is inserted anywhere, or the
entries are mixed in another way that keeps those of each version in their order. -/
inductive Rearranges :
    List (AddressFamily × String) → List (AddressFamily × String) → Prop where
  | insert {before after : List (AddressFamily × String)} {entry : AddressFamily × String}
    (h : IsSuperfluous before entry) : Rearranges (before ++ after) (before ++ entry :: after)
  | interleave {found found' : List (AddressFamily × String)} (hperm : found.Perm found')
    (hv4 : found.filter holdsV4 = found'.filter holdsV4)
    (hv6 : found.filter holdsV6 = found'.filter holdsV6) : Rearranges found found'

/-- An address that is not looked for, or was there before, does not change what is found first. -/
theorem find?_insert {P : Address → Bool} {before after : List Address} {address : Address}
    (h : P address = false ∨ address ∈ before) :
    (before ++ address :: after).find? P = (before ++ after).find? P := by
  rw [List.find?_append, List.find?_append, List.find?_cons]
  cases hmatch : P address with
  | false => rfl
  | true =>
    have hmem : address ∈ before := h.resolve_left (by simp [hmatch])
    have hsome : (before.find? P).isSome := List.find?_isSome.2 ⟨address, hmem, hmatch⟩
    rw [Option.or_of_isSome hsome, Option.or_of_isSome hsome]

/-- An address that is unusable or stood there before changes no preference. -/
theorem preferred_insert {before after : List Address} {address : Address}
    (h : address.isUsable = false ∨ address ∈ before) :
    preferred (before ++ address :: after) = preferred (before ++ after) := by
  rw [preferred_eq, preferred_eq, find?_insert (h.imp_left fun hunusable ↦ by simp [hunusable]),
    find?_insert h]

/-- Of each version only the addresses of this version matter. -/
theorem preferred_eq_of_versions (found : List Address) :
    preferred found = ((found.filter Address.isV4).find? Address.isUsable).or
      ((found.filter fun address ↦ !address.isV4).find? Address.isUsable) := by
  have hv4 : (found.filter Address.isV4).find? Address.isUsable =
      found.find? fun address ↦ address.isUsable && address.isV4 := by
    rw [List.find?_filter]
    congr 1
    funext address
    cases address.isV4 <;> cases address.isUsable <;> rfl
  rw [preferred_eq, hv4]
  cases hfound : found.find? fun address ↦ address.isUsable && address.isV4 with
  | some address => rfl
  | none =>
    -- every usable address is of version six
    rw [Option.none_or, Option.none_or, ← List.head?_filter, ← List.head?_filter,
      List.filter_filter]
    congr 1
    refine List.filter_congr fun address hmem ↦ ?_
    have hnone := List.find?_eq_none.1 hfound address hmem
    revert hnone
    cases address.isV4 <;> cases address.isUsable <;> simp

/-- A superfluous entry decides nothing about whether all entries hold an address. -/
theorem allHold_insert_iff {before after : List (AddressFamily × String)}
    {entry : AddressFamily × String} (h : IsSuperfluous before entry) :
    AllHold (before ++ entry :: after) ↔ AllHold (before ++ after) := by
  have hentry : entry.1.isIp = true → (addressOf? entry).isSome = true := by
    intro hfamily
    cases h with
    | otherFamily hother => rw [hother] at hfamily; cases hfamily
    | unusable address haddress | repeated address haddress => rw [haddress]; rfl
  simp only [AllHold, List.forall_mem_append, List.forall_mem_cons]
  exact and_congr_right fun _ ↦ and_iff_right hentry

/-- A superfluous entry changes no preference. -/
theorem preferred_superfluous {before after : List (AddressFamily × String)}
    {entry : AddressFamily × String} (h : IsSuperfluous before entry) :
    preferred ((before ++ entry :: after).filterMap addressOf?) =
      preferred ((before ++ after).filterMap addressOf?) := by
  rw [List.filterMap_append, List.filterMap_append]
  cases h with
  | otherFamily hfamily =>
    rw [List.filterMap_cons_none (by simp [addressOf?, hfamily])]
  | unusable address haddress hunusable =>
    rw [List.filterMap_cons_some haddress, preferred_insert (.inl hunusable)]
  | repeated address haddress earlier hearlier hsame =>
    have hmem : address ∈ before.filterMap addressOf? :=
      List.mem_filterMap.2 ⟨earlier, hearlier, hsame⟩
    rw [List.filterMap_cons_some haddress, preferred_insert (.inr hmem)]

/-- Addresses are picked among the entries or among what these hold. -/
theorem filter_filterMap_addressOf (P : Address → Bool) (found : List (AddressFamily × String)) :
    (found.filterMap addressOf?).filter P =
      (found.filter fun entry ↦ (addressOf? entry).any P).filterMap addressOf? := by
  induction found with
  | nil => rfl
  | cons entry found ih =>
    cases haddress : addressOf? entry with
    | none => simp [haddress, ih]
    | some address => cases hmatch : P address <;> simp [haddress, hmatch, ih]

/-- The addresses of version four are those of the entries that hold one. -/
theorem filter_isV4_addresses (found : List (AddressFamily × String)) :
    (found.filterMap addressOf?).filter Address.isV4 =
      (found.filter holdsV4).filterMap addressOf? :=
  filter_filterMap_addressOf Address.isV4 found

/-- The addresses of version six are those of the entries that hold one. -/
theorem filter_isV6_addresses (found : List (AddressFamily × String)) :
    ((found.filterMap addressOf?).filter fun address ↦ !address.isV4) =
      (found.filter holdsV6).filterMap addressOf? :=
  filter_filterMap_addressOf (fun address ↦ !address.isV4) found

/-- A change that does not matter leaves the answer as it is. -/
theorem select_of_rearranges {found found' : List (AddressFamily × String)}
    (h : Rearranges found found') : (select found).toOption = (select found').toOption := by
  have hsame : (AllHold found ↔ AllHold found') ∧
      preferred (found.filterMap addressOf?) = preferred (found'.filterMap addressOf?) := by
    cases h with
    | insert hsuperfluous =>
      exact ⟨(allHold_insert_iff hsuperfluous).symm, (preferred_superfluous hsuperfluous).symm⟩
    | interleave hperm hv4 hv6 =>
      refine ⟨forall_congr' fun entry ↦ by rw [hperm.mem_iff], ?_⟩
      rw [preferred_eq_of_versions, preferred_eq_of_versions, filter_isV4_addresses,
        filter_isV4_addresses, filter_isV6_addresses, filter_isV6_addresses, hv4, hv6]
  refine Option.ext fun answer ↦ ?_
  rw [toOption_eq_some_iff, toOption_eq_some_iff, select_eq_ok_iff_allHold,
    select_eq_ok_iff_allHold, hsame.1, hsame.2]

/-- Lookups that come from each other by rearranging have one answer. -/
theorem select_of_eqvGen {found found' : List (AddressFamily × String)}
    (h : Relation.EqvGen Rearranges found found') :
    (select found).toOption = (select found').toOption := by
  induction h with
  | rel found found' hstep => exact select_of_rearranges hstep
  | refl found => rfl
  | symm found found' _ ih => exact ih.symm
  | trans found between found' _ _ hfirst hsecond => exact hfirst.trans hsecond

/-! ### The reply -/

/-- The reply that goes with the addresses found: the canonical text of the first usable one of
version four, or of the first usable one if there is none of version four, or that there is none. -/
structure IsPreferred (found : List Address) (reply : Option String) : Prop where
  v4 : ∀ before address after, found = before ++ address :: after → address.isUsable = true →
    address.isV4 = true → (∀ other ∈ before, other.isUsable = true → other.isV4 = false) →
      reply = some address.text
  v6 : ∀ before address after, found = before ++ address :: after → address.isUsable = true →
    (∀ other ∈ found, other.isUsable = true → other.isV4 = false) →
    (∀ other ∈ before, other.isUsable = false) → reply = some address.text
  none : (∀ address ∈ found, address.isUsable = false) → reply = none

/-- The preferred address meets its specification. -/
theorem isPreferred_preferred (found : List Address) :
    IsPreferred found ((preferred found).map Address.text) where
  v4 before address after hfound husable hv4 hbefore := by
    have hfirst : found.find? (fun address ↦ address.isUsable && address.isV4) = some address := by
      refine List.find?_eq_some_iff_append.2 ⟨by simp [husable, hv4], before, after, hfound, ?_⟩
      intro other hother
      have hother := hbefore other hother
      revert hother
      cases other.isUsable <;> cases other.isV4 <;> simp
    rw [preferred_eq, hfirst]
    rfl
  v6 before address after hfound husable hv6 hbefore := by
    have hv4 : found.find? (fun address ↦ address.isUsable && address.isV4) = .none := by
      refine List.find?_eq_none.2 fun other hother ↦ ?_
      have hother := hv6 other hother
      revert hother
      cases other.isUsable <;> cases other.isV4 <;> simp
    have hfirst : found.find? Address.isUsable = some address :=
      List.find?_eq_some_iff_append.2
        ⟨husable, before, after, hfound, fun other hother ↦ by simp [hbefore other hother]⟩
    rw [preferred_eq, hv4, hfirst]
    rfl
  none hnone := by rw [preferred_eq_none_iff.2 hnone]; rfl

/-- Where all entries of an IP family hold addresses, the reply to a lookup is the preferred one,
and it is the same for every resolution that differs only in what does not matter. -/
theorem reply_is_preferred {found : List (AddressFamily × String)} {addresses : List Address}
    (h : List.Forall₂ Address.Spells addresses (candidates found)) :
    ∃ reply, IsPreferred addresses reply ∧
      ∀ found', Relation.EqvGen Rearranges found found' →
        ∀ {ρ : Type} (given : Option String) (resolver : Resolver ρ) (state : State ρ),
          state.answer = none →
          (resolver.lookup (nameToResolve given resolver.hostName) state.resolver).1 =
            some found' →
          ((source given resolver).ask state).1 = .ok reply := by
  have hselect : select found = .ok ((preferred addresses).map Address.text) :=
    select_eq_ok_iff.2 ⟨addresses, h, rfl⟩
  refine ⟨_, isPreferred_preferred addresses, ?_⟩
  intro found' hchanges ρ given resolver state hfresh hfound
  have hselect' : select found' = .ok ((preferred addresses).map Address.text) := by
    rw [← toOption_eq_some_iff, ← select_of_eqvGen hchanges, hselect]
    rfl
  rw [ask_unsettled given resolver hfresh]
  dsimp only
  rw [hfound, Option.getD_some, hselect']
  rfl

/-- Two addresses of the host itself and of the link, an address of version six in two spellings,
and two addresses of version four. The first of these two stays the reply when another one of the
host itself, a name of another family and a repetition come in and the versions are mixed in another
way. -/
theorem reply_is_preferred_mixed :
    let found : List (AddressFamily × String) :=
      [(.inet6, "::1"), (.inet6, "2001:DB8::1"), (.inet6, "fe80::1%eth0"), (.inet, "192.0.2.7"),
        (.inet, "192.0.2.6")]
    let found' : List (AddressFamily × String) :=
      [(.inet, "192.0.2.7"), (.inet6, "::1"), (.inet6, "2001:DB8::1"), (.other, "/run/host"),
        (.inet, "127.0.0.1"), (.inet, "192.0.2.6"), (.inet6, "2001:db8:0::1"),
        (.inet6, "fe80::1%eth0")]
    Relation.EqvGen Rearranges found found' ∧
      ((source none (Resolver.scripted "host")).ask { resolver := [some found] }).1 =
        .ok (some "192.0.2.7") ∧
      ((source none (Resolver.scripted "host")).ask { resolver := [some found'] }).1 =
        .ok (some "192.0.2.7") := by
  intro found found'
  let loopback : Address := .v6 ⟨[0, 0, 0, 0, 0, 0, 0, 1], none, rfl⟩
  let documentation : Address := .v6 ⟨[0x2001, 0xdb8, 0, 0, 0, 0, 0, 1], none, rfl⟩
  let onLink : Address := .v6 ⟨[0xfe80, 0, 0, 0, 0, 0, 0, 1], none, rfl⟩
  let addresses := [loopback, documentation, onLink, .v4 ⟨192, 0, 2, 7⟩, .v4 ⟨192, 0, 2, 6⟩]
  have hspells : List.Forall₂ Address.Spells addresses (candidates found) :=
    forall₂_spells_iff.2 ⟨by unfold AllHold; decide +kernel, by decide +kernel⟩
  have hmixed : Rearranges found
      [(.inet, "192.0.2.7"), (.inet6, "::1"), (.inet6, "2001:DB8::1"), (.inet, "192.0.2.6"),
        (.inet6, "fe80::1%eth0")] :=
    .interleave (by decide +kernel) (by decide +kernel) (by decide +kernel)
  have hother : IsSuperfluous [(.inet, "192.0.2.7"), (.inet6, "::1"), (.inet6, "2001:DB8::1")]
      (.other, "/run/host") :=
    .otherFamily rfl
  have hunusable : IsSuperfluous [(.inet, "192.0.2.7"), (.inet6, "::1"), (.inet6, "2001:DB8::1"),
      (.other, "/run/host")] (.inet, "127.0.0.1") :=
    .unusable (.v4 ⟨127, 0, 0, 1⟩) (by decide +kernel) (by decide)
  have hrepeated : IsSuperfluous [(.inet, "192.0.2.7"), (.inet6, "::1"), (.inet6, "2001:DB8::1"),
      (.other, "/run/host"), (.inet, "127.0.0.1"), (.inet, "192.0.2.6")]
      (.inet6, "2001:db8:0::1") :=
    .repeated documentation (by decide +kernel) (.inet6, "2001:DB8::1") (by simp)
      (by decide +kernel)
  have hfirst : Rearranges (_ ++ [(.inet, "192.0.2.6"), (.inet6, "fe80::1%eth0")]) _ :=
    .insert hother
  have hsecond : Rearranges (_ ++ [(.inet, "192.0.2.6"), (.inet6, "fe80::1%eth0")]) _ :=
    .insert hunusable
  have hthird : Rearranges (_ ++ [(.inet6, "fe80::1%eth0")]) _ := .insert hrepeated
  have hchanges : Relation.EqvGen Rearranges found found' :=
    .trans _ _ _ (.rel _ _ hmixed) (.trans _ _ _ (.rel _ _ hfirst)
      (.trans _ _ _ (.rel _ _ hsecond) (.rel _ _ hthird)))
  obtain ⟨reply, hreply, hlookup⟩ := reply_is_preferred hspells
  have hv4 : reply = some "192.0.2.7" :=
    hreply.v4 [loopback, documentation, onLink] (.v4 ⟨192, 0, 2, 7⟩) [.v4 ⟨192, 0, 2, 6⟩] rfl
      (by decide) rfl (by decide)
  rw [hv4] at hlookup
  exact ⟨hchanges, hlookup found (.refl _) none _ _ rfl rfl,
    hlookup found' hchanges none _ _ rfl rfl⟩

end SpanBridge.LocalAddress
