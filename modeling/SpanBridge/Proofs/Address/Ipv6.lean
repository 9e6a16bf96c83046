import Mathlib.Data.List.TakeWhile
import SpanBridge.Proofs.Address.Gap

/-!
# The text of an IPv6 address

A text is read as an address when it spells the groups of the address, with its zone after them
(`parse?_eq_some_iff`). The canonical text is one of these spellings (`spellsBody_bodyText`):
`longestZeroRun_spec` says which groups its double colon stands for. So it is read back, if the zone
can be told from the groups (`parse?_text`).
-/

set_option autoImplicit false
set_option relaxedAutoImplicit false

namespace SpanBridge.Ipv6

/-! ### What is read -/

/-- Splitting the text of a side at its colons gives the parts of the side back. -/
theorem splitOn_intercalate_side {side : List (List Char)} (h : ∀ part ∈ side, ':' ∉ part) :
    (List.intercalate [':'] side).splitOn ':' = sideParts side := by
  rw [← intercalate_sideParts, List.splitOn_intercalate ':' _ (sideParts_ne_nil side)]
  intro part hpart hcolon
  rcases mem_sideParts hpart with rfl | hpart
  · cases hcolon
  · exact h part hpart hcolon

/-- A double colon is found again as an empty part between the two sides. -/
theorem splitOn_sides {high low : List (List Char)} (hhigh : ∀ part ∈ high, ':' ∉ part)
    (hlow : ∀ part ∈ low, ':' ∉ part) :
    (List.intercalate [':'] high ++ ':' :: ':' :: List.intercalate [':'] low).splitOn ':' =
      sideParts high ++ [] :: sideParts low := by
  rw [← List.nil_append (':' :: List.intercalate [':'] low), List.splitOn_append_cons_self,
    List.splitOn_append_cons_self, splitOn_intercalate_side hhigh, splitOn_intercalate_side hlow]
  rfl

/-- What follows the gap, and how it is taken. -/
theorem spellsGroups_side_iff {groups : List UInt16} {rest : List (List Char)} :
    (∃ raw, rest = sideParts raw ∧ SpellsGroups groups raw) ↔
      ∃ parts, Expands rest (sideParts parts) ∧ List.Forall₂ SpellsGroup groups parts := by
  constructor
  · rintro ⟨raw, rfl, hraw⟩
    by_cases hne : raw = []
    · subst hne
      cases hraw
      exact ⟨[], .plain (by simp), .nil⟩
    · obtain ⟨parts, hexpands, hgroups⟩ := (spellsGroups_iff hne).1 hraw
      refine ⟨parts, ?_, hgroups⟩
      rwa [sideParts, sideParts, if_neg hne, if_neg (expands_ne_nil hexpands).2]
  · rintro ⟨parts, hexpands, hgroups⟩
    by_cases hne : parts = []
    · subst hne
      cases hgroups
      refine ⟨[], ?_, .nil⟩
      generalize hside : sideParts [] = side at hexpands
      cases hexpands with
      | plain => rfl
      | octets => simp [sideParts, octetParts] at hside
      | cons hrest =>
        obtain ⟨-, hnone⟩ := List.cons.inj hside
        exact absurd hnone.symm (expands_ne_nil hrest).2
    · rw [sideParts, if_neg hne] at hexpands
      have hrest := (expands_ne_nil hexpands).1
      exact ⟨rest, (if_neg hrest).symm, (spellsGroups_iff hrest).2 ⟨parts, hexpands, hgroups⟩⟩

/-- A text spells eight groups when its parts, taken as the reader takes them, are these groups. -/
theorem spellsBody_iff {groups : List UInt16} {chars : List Char} :
    SpellsBody groups chars ↔ ∃ parts, parts? chars = some parts ∧ Grouped groups parts := by
  have hcolon {groups : List UInt16} {raw : List (List Char)} (h : SpellsGroups groups raw) :
      ∀ part ∈ raw, ':' ∉ part := fun part hpart hmem ↦
    plain_of_spellsGroups h part hpart ':' hmem (by simp)
  simp only [parts?_eq_some_iff]
  constructor
  · intro h
    cases h with
    | @full _ raw hraw hlength =>
      have hcount := length_le_of_spellsGroups hraw
      have hne : raw ≠ [] := List.ne_nil_of_length_pos (by omega)
      obtain ⟨parts, hexpands, hgroups⟩ := (spellsGroups_iff hne).1 hraw
      rw [List.splitOn_intercalate ':' (hcolon hraw) hne]
      exact ⟨parts, ⟨by omega, hexpands⟩, .full hgroups hlength⟩
    | @gap high low highParts lowRaw hhigh hlow hlength =>
      obtain ⟨lowParts, hexpands, hlowGroups⟩ := spellsGroups_side_iff.1 ⟨lowRaw, rfl, hlow⟩
      rw [splitOn_sides (hcolon (spellsGroups_of_forall₂ hhigh)) (hcolon hlow)]
      refine ⟨_, ⟨?_, expands_across_gap hexpands⟩, .gap hhigh hlowGroups hlength⟩
      simp only [List.length_append, List.length_cons, length_sideParts]
      omega
  · rintro ⟨parts, ⟨hcount, hexpands⟩, hgrouped⟩
    rw [← @List.intercalate_splitOn _ chars _ _ ':']
    cases hgrouped with
    | full hgroups hlength =>
      exact .full ((spellsGroups_iff (expands_ne_nil hexpands).1).2 ⟨_, hexpands, hgroups⟩) hlength
    | gap hhigh hlow hlength =>
      obtain ⟨rest, hraw, hrest⟩ := exists_across_gap (sideParts_ne_nil _) hexpands
      obtain ⟨lowRaw, rfl, hlowRaw⟩ := spellsGroups_side_iff.2 ⟨_, hrest, hlow⟩
      rw [hraw, ← splitOn_sides (hcolon (spellsGroups_of_forall₂ hhigh)) (hcolon hlowRaw),
        List.intercalate_splitOn]
      exact .gap hhigh hlowRaw hlength

/-- Every spelling of groups has a colon, which tells it from an IPv4 address. -/
theorem colon_mem_of_spellsBody {groups : List UInt16} {chars : List Char}
    (h : SpellsBody groups chars) : ':' ∈ chars := by
  obtain ⟨parts, hparts, -⟩ := spellsBody_iff.1 h
  by_contra hcolon
  have hcount := (parts?_eq_some_iff.1 hparts).1
  rw [List.splitOn_eq_singleton hcolon] at hcount
  simp at hcount

/-! ### Zones -/

/-- A text without a percent sign has no zone. -/
theorem splitZone?_of_not_mem {chars : List Char} (h : '%' ∉ chars) :
    splitZone? chars = some (chars, none) := by
  have hrest : chars.dropWhile (· ≠ '%') = [] :=
    List.dropWhile_eq_nil_iff.2 fun c hc ↦ decide_eq_true fun hmark ↦ h (hmark ▸ hc)
  rw [splitZone?, hrest]

/-- What follows the first percent sign is the zone, which must not be empty or hold another one. -/
theorem splitZone?_append_mark {body zone : List Char} (h : '%' ∉ body) :
    splitZone? (body ++ '%' :: zone) =
      if zone.isEmpty || zone.contains '%' then none
      else some (body, some (String.ofList zone)) := by
  have hbody : ∀ c ∈ body, decide (c ≠ '%') = true :=
    fun c hc ↦ decide_eq_true fun hmark ↦ h (hmark ▸ hc)
  have hrest : (body ++ '%' :: zone).dropWhile (· ≠ '%') = '%' :: zone :=
    List.dropWhile_append_of_pos hbody
  have hstart : (body ++ '%' :: zone).takeWhile (· ≠ '%') = body :=
    (List.takeWhile_append_of_pos hbody).trans (List.append_nil body)
  rw [splitZone?, hrest, hstart]

theorem toList_zoneText (name : String) : (zoneText (some name)).toList = '%' :: name.toList := by
  rw [zoneText, Option.map_some, Option.getD_some, String.toList_append]
  rfl

/-- A text splits into a body and a zone exactly as they were put together. -/
theorem splitZone?_eq_some_iff {chars body : List Char} {zone : Option String} :
    splitZone? chars = some (body, zone) ↔
      '%' ∉ body ∧ (∀ name, zone = some name → name ≠ "" ∧ '%' ∉ name.toList) ∧
        chars = body ++ (zoneText zone).toList := by
  constructor
  · intro h
    by_cases hmark : '%' ∈ chars
    · obtain ⟨before, rest, rfl, hbefore⟩ := List.eq_append_cons_of_mem hmark
      rw [splitZone?_append_mark hbefore] at h
      split at h
      · cases h
      · next hshape =>
        obtain ⟨rfl, rfl⟩ := Prod.mk.inj (Option.some.inj h)
        simp only [Bool.or_eq_true, List.isEmpty_iff, List.contains_iff_mem, not_or] at hshape
        refine ⟨hbefore, ?_, by rw [toList_zoneText, String.toList_ofList]⟩
        rintro _ ⟨⟩
        exact ⟨by simpa using hshape.1, by simpa using hshape.2⟩
    · rw [splitZone?_of_not_mem hmark] at h
      obtain ⟨rfl, rfl⟩ := Prod.mk.inj (Option.some.inj h)
      exact ⟨hmark, by simp, by simp [zoneText]⟩
  · rintro ⟨hmark, hzone, rfl⟩
    cases zone with
    | none => simpa [zoneText] using splitZone?_of_not_mem hmark
    | some name =>
      obtain ⟨hne, hsecond⟩ := hzone name rfl
      rw [toList_zoneText, splitZone?_append_mark hmark]
      simp [hne, hsecond]

/-- A text is read as an address when it spells the groups of the address, with its zone after
them. -/
theorem parse?_eq_some_iff {chars : List Char} {address : Ipv6} :
    parse? chars = some address ↔
      ∃ body, SpellsBody address.groups body ∧ address.HasReadableZone ∧
        chars = body ++ (zoneText address.zone).toList := by
  simp only [parse?, Option.bind_eq_bind, Option.bind_eq_some_iff, Prod.exists,
    splitZone?_eq_some_iff]
  constructor
  · rintro ⟨body, zone, ⟨-, hzone, rfl⟩, parts, hparts, groups, hgroups, h⟩
    split at h
    · next hlength =>
      obtain rfl := Option.some.inj h
      exact ⟨body, spellsBody_iff.2 ⟨parts, hparts, grouped_of_groups? hgroups hlength⟩, hzone, rfl⟩
    · cases h
  · rintro ⟨body, hbody, hzone, rfl⟩
    obtain ⟨parts, hparts, hgrouped⟩ := spellsBody_iff.1 hbody
    have hmark : '%' ∉ body := fun hmem ↦ plain_of_spellsBody hbody '%' hmem (by simp)
    refine ⟨body, address.zone, ⟨hmark, hzone, rfl⟩, parts, hparts, address.groups,
      groups?_of_grouped hgrouped, ?_⟩
    rw [dif_pos address.eight]
    rfl

/-! ### The canonical text -/

def groupChars (group : UInt16) : List Char := Nat.toDigits 16 group.toNat

/-- A number is spelled by its hexadecimal digits. -/
theorem exists_spellsDigit_toDigits (number : Nat) :
    ∃ digits, List.Forall₂ SpellsDigit digits (Nat.toDigits 16 number) ∧
      Nat.ofDigits 16 digits.reverse = number := by
  induction number using Nat.strong_induction_on with
  | _ number ih =>
    by_cases hsmall : number < 16
    · refine ⟨[number], ?_, by simp⟩
      rw [Nat.toDigits_of_lt_base hsmall]
      exact .cons ⟨hsmall, .inl rfl⟩ .nil
    · obtain ⟨digits, hdigits, hvalue⟩ := ih (number / 16) (by omega)
      have hlast : SpellsDigit (number % 16) (number % 16).digitChar :=
        ⟨Nat.mod_lt _ (by decide), .inl rfl⟩
      refine ⟨digits ++ [number % 16], ?_, ?_⟩
      · rw [Nat.toDigits_of_base_le (by decide) (Nat.not_lt.1 hsmall)]
        exact List.rel_append hdigits (.cons hlast .nil)
      · rw [List.reverse_append, List.reverse_singleton, List.singleton_append,
          Nat.ofDigits_cons, hvalue]
        exact Nat.mod_add_div number 16

/-- The hexadecimal digits of a group spell it. -/
theorem spellsGroup_groupChars (group : UInt16) : SpellsGroup group (groupChars group) :=
  ⟨Nat.toDigits_ne_nil, (Nat.length_toDigits_le_iff (by decide) (by decide)).2 group.toNat_lt,
    exists_spellsDigit_toDigits group.toNat⟩

theorem spellsGroups_groupChars (groups : List UInt16) :
    List.Forall₂ SpellsGroup groups (groups.map groupChars) :=
  List.forall₂_map_right_iff.2 (List.forall₂_same.2 fun group _ ↦ spellsGroup_groupChars group)

theorem toList_groupsText (groups : List UInt16) :
    (groupsText groups).toList = List.intercalate [':'] (groups.map groupChars) := by
  have hchars : (fun group ↦ (String.ofList (Nat.toDigits 16 group.toNat)).toList) =
      groupChars := funext fun group ↦ String.toList_ofList
  rw [groupsText, String.toList_intercalate, List.map_map, ← hchars]
  rfl

theorem take_zeroRun (groups : List UInt16) :
    groups.take (zeroRun groups) = List.replicate (zeroRun groups) 0 := by
  have hprefix := List.prefix_iff_eq_take.1 (List.takeWhile_prefix (l := groups) (· = 0))
  rw [zeroRun, ← hprefix, List.eq_replicate_iff]
  exact ⟨rfl, fun group hgroup ↦ by
    simpa using List.all_eq_true.1 List.all_takeWhile group hgroup⟩

/-- The longest run is empty or is the run of zero groups from its start on. -/
theorem longestZeroRun_spec (groups : List UInt16) :
    (longestZeroRun groups).2 = 0 ∨
      (longestZeroRun groups).2 = zeroRun (groups.drop (longestZeroRun groups).1) := by
  have hrun : ∀ (places : List Nat) (best : Nat × Nat),
      (best.2 = 0 ∨ best.2 = zeroRun (groups.drop best.1)) →
        let last := places.foldl (fun best start ↦
          let length := zeroRun (groups.drop start)
          if best.2 < length then (start, length) else best) best
        last.2 = 0 ∨ last.2 = zeroRun (groups.drop last.1) := by
    intro places
    induction places with
    | nil => exact fun best hbest ↦ hbest
    | cons place places ih =>
      intro best hbest
      refine ih _ ?_
      dsimp only
      split
      · exact .inr rfl
      · exact hbest
  exact hrun _ _ (.inl rfl)

/-- The groups are those before the gap, zeros, and those after it. -/
theorem eq_of_longestZeroRun {groups : List UInt16} {start length : Nat}
    (h : longestZeroRun groups = (start, length)) :
    groups = groups.take start ++ List.replicate length 0 ++ groups.drop (start + length) := by
  have hspec := longestZeroRun_spec groups
  simp only [h] at hspec
  rcases hspec with rfl | rfl
  · simp
  · rw [← take_zeroRun, ← List.drop_drop, List.append_assoc, List.take_append_drop,
      List.take_append_drop]

/-- The text of groups, with a double colon for the gap. -/
def bodyText (groups : List UInt16) : String :=
  let (start, length) := longestZeroRun groups
  if 1 < length then
    groupsText (groups.take start) ++ "::" ++ groupsText (groups.drop (start + length))
  else groupsText groups

/-- The canonical text is the one of the groups with the zone after it. -/
theorem text_eq (address : Ipv6) :
    address.text = bodyText address.groups ++ zoneText address.zone := rfl

/-- The canonical text of eight groups spells them. -/
theorem spellsBody_bodyText {groups : List UInt16} (h : groups.length = 8) :
    SpellsBody groups (bodyText groups).toList := by
  obtain ⟨start, length, hrun⟩ : ∃ start length, longestZeroRun groups = (start, length) :=
    ⟨_, _, rfl⟩
  have hgroups := eq_of_longestZeroRun hrun
  rw [bodyText, hrun]
  dsimp only
  split
  · next hgap =>
    generalize groups.take start = high at hgroups
    generalize groups.drop (start + length) = low at hgroups
    subst hgroups
    simp only [List.length_append, List.length_replicate] at h
    have hspells := SpellsBody.gap (spellsGroups_groupChars high)
      (spellsGroups_of_forall₂ (spellsGroups_groupChars low)) (by omega)
    rw [show 8 - (high.length + low.length) = length by omega] at hspells
    rw [String.toList_append, String.toList_append, List.append_assoc (groupsText high).toList,
      toList_groupsText, toList_groupsText]
    exact hspells
  · rw [toList_groupsText]
    exact .full (spellsGroups_of_forall₂ (spellsGroups_groupChars groups)) h

/-- The canonical text of an address is read back as the address. -/
theorem parse?_text {address : Ipv6} (h : address.HasReadableZone) :
    parse? address.text.toList = some address := by
  rw [parse?_eq_some_iff, text_eq, String.toList_append]
  exact ⟨_, spellsBody_bodyText address.eight, h, rfl⟩

end SpanBridge.Ipv6
