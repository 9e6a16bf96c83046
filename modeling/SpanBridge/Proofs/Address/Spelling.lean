import SpanBridge.Proofs.Address.Ipv4
import SpanBridge.Proofs.Outcome

/-!
# The spellings of an IPv6 address

An IPv6 address has many spellings: hexadecimal digits of either case, superfluous zeros in a group,
a double colon for any run of zero groups or for none, an IPv4 address for the last two groups.
`Ipv6.SpellsBody` says which texts spell eight groups. A group is read from what spells it
(`group?_eq_some_iff`), and an IPv4 address at the end is taken as two parts (`parts?_eq_some_iff`),
which spell the two groups that the address stands for (`spellsGroups_iff`).
-/

set_option autoImplicit false
set_option relaxedAutoImplicit false

namespace SpanBridge

/-- The two groups that an IPv4 address stands for within an IPv6 address. -/
def Ipv4.groups (address : Ipv4) : List UInt16 :=
  [.ofNat (256 * address.first.toNat + address.second.toNat),
    .ofNat (256 * address.third.toNat + address.fourth.toNat)]

namespace Ipv6

/-! ### The grammar -/

/-- A character is a hexadecimal digit, in either case. -/
def SpellsDigit (digit : Nat) (c : Char) : Prop :=
  digit < 16 ∧ (c = digit.digitChar ∨ c = digit.digitChar.toUpper)

/-- One to four hexadecimal digits spell a group. -/
def SpellsGroup (group : UInt16) (chars : List Char) : Prop :=
  chars ≠ [] ∧ chars.length ≤ 4 ∧ ∃ digits, List.Forall₂ SpellsDigit digits chars ∧
    Nat.ofDigits 16 digits.reverse = group.toNat

/-- Parts between colons spell groups: each of them one, but an IPv4 address at the end two. -/
inductive SpellsGroups : List UInt16 → List (List Char) → Prop where
  | nil : SpellsGroups [] []
  | octets (address : Ipv4) : SpellsGroups address.groups [address.text.toList]
  | cons {group : UInt16} {groups : List UInt16} {part : List Char} {parts : List (List Char)}
      (hpart : SpellsGroup group part) (hparts : SpellsGroups groups parts) :
    SpellsGroups (group :: groups) (part :: parts)

/-- A text spells eight groups: all of them, or those on both sides of a double colon, which stands
for one zero group at least. -/
inductive SpellsBody : List UInt16 → List Char → Prop where
  | full {groups : List UInt16} {parts : List (List Char)} (hparts : SpellsGroups groups parts)
      (hlength : groups.length = 8) :
    SpellsBody groups (List.intercalate [':'] parts)
  | gap {high low : List UInt16} {highParts lowParts : List (List Char)}
      (hhigh : List.Forall₂ SpellsGroup high highParts) (hlow : SpellsGroups low lowParts)
      (hlength : high.length + low.length < 8) :
    SpellsBody (high ++ List.replicate (8 - (high.length + low.length)) 0 ++ low)
      (List.intercalate [':'] highParts ++ ':' :: ':' :: List.intercalate [':'] lowParts)

/-- A zone that can be told from the groups: it is not empty and holds no second mark. -/
def HasReadableZone (address : Ipv6) : Prop :=
  ∀ zone, address.zone = some zone → zone ≠ "" ∧ '%' ∉ zone.toList

def zoneText (zone : Option String) : String := (zone.map ("%" ++ ·)).getD ""

/-! ### Groups -/

theorem code_lt_of_hexDigit? {c : Char} {digit : Nat} (h : hexDigit? c = some digit) :
    c.toNat < 128 := by
  have hcode : ∀ {first last : Char}, last.toNat < 128 →
      (decide (first ≤ c) && decide (c ≤ last)) = true → c.toNat < 128 := by
    intro first last hlast hbetween
    rw [Bool.and_eq_true, decide_eq_true_eq, decide_eq_true_eq] at hbetween
    exact Nat.lt_of_le_of_lt hbetween.2 hlast
  unfold hexDigit? at h
  split at h
  · next hdecimal => exact hcode (by decide) hdecimal
  · split at h
    · next hsmall => exact hcode (by decide) hsmall
    · split at h
      · next hlarge => exact hcode (by decide) hlarge
      · cases h

/-- A digit is read from the characters that spell it, small or capital. -/
theorem hexDigit?_eq_some_iff {c : Char} {digit : Nat} :
    hexDigit? c = some digit ↔ SpellsDigit digit c := by
  constructor
  · have hall : ∀ code : Fin 128, ∀ digit ∈ hexDigit? (Char.ofNat code),
        SpellsDigit digit (Char.ofNat code) := by
      unfold SpellsDigit
      decide +kernel
    intro h
    have hc : Char.ofNat c.toNat = c := Char.ofNat_toNat c
    exact hc ▸ hall ⟨c.toNat, code_lt_of_hexDigit? h⟩ digit (hc.symm ▸ h)
  · have hall : ∀ digit < 16, hexDigit? digit.digitChar = some digit ∧
        hexDigit? digit.digitChar.toUpper = some digit := by decide
    rintro ⟨hdigit, hc | hc⟩
    · exact hc ▸ (hall digit hdigit).1
    · exact hc ▸ (hall digit hdigit).2

theorem foldl_digits_eq (digits : List Nat) :
    digits.foldl (fun value digit ↦ 16 * value + digit) 0 = Nat.ofDigits 16 digits.reverse := by
  rw [Nat.ofDigits_eq_foldr, List.foldr_reverse]
  simp only [Nat.cast_id, add_comm]

/-- Four hexadecimal digits make a number of 16 bits. -/
theorem ofDigits_lt_of_spellsDigit {digits : List Nat} {chars : List Char}
    (h : List.Forall₂ SpellsDigit digits chars) (hlength : chars.length ≤ 4) :
    Nat.ofDigits 16 digits.reverse < 2 ^ 16 := by
  have hlt := ((List.forall₂_and_left digits chars).1 h).1
  calc Nat.ofDigits 16 digits.reverse
      < 16 ^ digits.reverse.length :=
        Nat.ofDigits_lt_base_pow_length (by decide) fun digit hdigit ↦
          hlt digit (List.mem_reverse.1 hdigit)
    _ ≤ 16 ^ 4 := Nat.pow_le_pow_right (by decide) (by rwa [List.length_reverse, h.length_eq])

/-- A group is read from the characters that spell it. -/
theorem group?_eq_some_iff {chars : List Char} {group : UInt16} :
    group? chars = some group ↔ SpellsGroup group chars := by
  have hguard : (!chars.isEmpty && decide (chars.length ≤ 4)) = true ↔
      chars ≠ [] ∧ chars.length ≤ 4 := by simp
  unfold group?
  simp only [Option.bind_eq_bind, Option.bind_eq_some_iff, Option.guard_eq_some', hguard,
    Option.pure_def, Option.some.injEq, mapM_eq_some_iff, foldl_digits_eq, hexDigit?_eq_some_iff]
  constructor
  · rintro ⟨-, ⟨hne, hlength⟩, digits, hdigits, rfl⟩
    refine ⟨hne, hlength, digits, hdigits, ?_⟩
    rw [Nat.toUInt16_eq, UInt16.toNat_ofNat_of_lt' (ofDigits_lt_of_spellsDigit hdigits hlength)]
  · rintro ⟨hne, hlength, digits, hdigits, hvalue⟩
    refine ⟨(), ⟨hne, hlength⟩, digits, hdigits, ?_⟩
    rw [hvalue, Nat.toUInt16_eq, UInt16.ofNat_toNat]

/-- None of the characters with a meaning of their own stands in a group. -/
theorem plain_of_spellsGroup {group : UInt16} {chars : List Char} (h : SpellsGroup group chars)
    {c : Char} (hc : c ∈ chars) : c ∉ [':', '%', '.', '/'] := by
  have hplain : ∀ digit < 16, digit.digitChar ∉ [':', '%', '.', '/'] ∧
      digit.digitChar.toUpper ∉ [':', '%', '.', '/'] := by decide
  obtain ⟨-, -, digits, hdigits, -⟩ := h
  obtain ⟨digit, -, hdigit, heq | heq⟩ := exists_mem_of_forall₂ hdigits hc
  · exact heq ▸ (hplain digit hdigit).1
  · exact heq ▸ (hplain digit hdigit).2

/-! ### Parts -/

/-- Groups that are spelled part by part are spelled without an embedded address. -/
theorem spellsGroups_of_forall₂ {groups : List UInt16} {parts : List (List Char)}
    (h : List.Forall₂ SpellsGroup groups parts) : SpellsGroups groups parts := by
  induction h with
  | nil => exact .nil
  | cons hgroup _ ih => exact .cons hgroup ih

/-- Parts spell at most one group more than there are parts: only the last may be an IPv4 address.
-/
theorem length_le_of_spellsGroups {groups : List UInt16} {raw : List (List Char)}
    (h : SpellsGroups groups raw) : groups.length ≤ raw.length + 1 := by
  induction h with
  | nil => simp
  | octets address => simp [Ipv4.groups]
  | cons _ _ ih => simpa using ih

theorem plain_of_spellsGroups {groups : List UInt16} {raw : List (List Char)}
    (h : SpellsGroups groups raw) :
    ∀ part ∈ raw, ∀ c ∈ part, c ∉ [':', '%', '/'] := by
  induction h with
  | nil => simp
  | octets address =>
    intro part hpart c hc
    obtain rfl := List.mem_singleton.1 hpart
    rcases Ipv4.isDigit_or_point_of_mem_text hc with hdigit | rfl
    · rintro hmem
      simp only [List.mem_cons, List.not_mem_nil, or_false] at hmem
      rcases hmem with rfl | rfl | rfl <;> exact absurd hdigit (by decide)
    · decide
  | cons hgroup _ ih =>
    intro part hpart c hc
    rcases List.mem_cons.1 hpart with rfl | hpart
    · have := plain_of_spellsGroup hgroup hc
      simp_all
    · exact ih part hpart c hc

theorem plain_of_spellsBody {groups : List UInt16} {chars : List Char}
    (h : SpellsBody groups chars) : ∀ c ∈ chars, c ∉ ['%', '/'] := by
  have hjoined {groups : List UInt16} {raw : List (List Char)} (h : SpellsGroups groups raw) :
      ∀ c ∈ List.intercalate [':'] raw, c ∉ ['%', '/'] := by
    intro c hc
    rcases mem_intercalate hc with rfl | ⟨part, hpart, hc⟩
    · decide
    · exact fun hmem ↦ plain_of_spellsGroups h part hpart c hc (List.mem_cons_of_mem _ hmem)
  intro c hc
  cases h with
  | full hparts => exact hjoined hparts c hc
  | gap hhigh hlow =>
    rcases List.mem_append.1 hc with hc | hc
    · exact hjoined (spellsGroups_of_forall₂ hhigh) c hc
    rcases List.mem_cons.1 hc with rfl | hc
    · decide
    rcases List.mem_cons.1 hc with rfl | hc
    · decide
    · exact hjoined hlow c hc

/-! ### An IPv4 address at the end -/

/-- The two parts as which the reader takes an IPv4 address. -/
def octetParts (address : Ipv4) : List (List Char) :=
  [ Text.hexDigits 2 address.first.toNat ++ Text.hexDigits 2 address.second.toNat,
    Text.hexDigits 2 address.third.toNat ++ Text.hexDigits 2 address.fourth.toNat ]

/-- Parts with an IPv4 address at the end taken as two of them. -/
inductive Expands : List (List Char) → List (List Char) → Prop where
  | plain {part : List Char} (hpoint : '.' ∉ part) : Expands [part] [part]
  | octets (address : Ipv4) : Expands [address.text.toList] (octetParts address)
  | cons {part : List Char} {raw parts : List (List Char)} (h : Expands raw parts) :
    Expands (part :: raw) (part :: parts)

theorem spellsDigit_hexDigit {digit : Nat} (h : digit < 16) :
    SpellsDigit digit (Text.hexDigit digit) := ⟨h, .inl rfl⟩

/-- Two octets in hexadecimal spell the group that they make. -/
theorem spellsGroup_hexDigits {high low : Nat} (hhigh : high < 256) (hlow : low < 256) :
    SpellsGroup (.ofNat (256 * high + low)) (Text.hexDigits 2 high ++ Text.hexDigits 2 low) := by
  refine ⟨by simp [Text.hexDigits], by simp [Text.hexDigits],
    [high / 16 % 16, high % 16, low / 16 % 16, low % 16], ?_, ?_⟩
  · have hdigit (number : Nat) : number % 16 < 16 := Nat.mod_lt _ (by decide)
    exact .cons (spellsDigit_hexDigit (hdigit _)) (.cons (spellsDigit_hexDigit (hdigit _))
      (.cons (spellsDigit_hexDigit (hdigit _)) (.cons (spellsDigit_hexDigit (hdigit _)) .nil)))
  · rw [UInt16.toNat_ofNat_of_lt' (show 256 * high + low < 65536 by omega)]
    simp only [List.reverse_cons, List.reverse_nil, List.nil_append, List.cons_append,
      Nat.ofDigits_cons, Nat.ofDigits_nil]
    omega

/-- Characters spell one group at most. -/
theorem spellsGroup_unique {group other : UInt16} {chars : List Char}
    (h : SpellsGroup group chars) (hother : SpellsGroup other chars) : group = other := by
  rw [← group?_eq_some_iff] at h hother
  exact Option.some.inj (h.symm.trans hother)

/-- An embedded IPv4 address stands for the two groups of its octets and no others. -/
theorem forall₂_spellsGroup_octetParts {groups : List UInt16} {address : Ipv4} :
    List.Forall₂ SpellsGroup groups (octetParts address) ↔ groups = address.groups := by
  have hoctet (octet : UInt8) : octet.toNat < 256 := octet.toNat_lt
  have hfirst := spellsGroup_hexDigits (hoctet address.first) (hoctet address.second)
  have hsecond := spellsGroup_hexDigits (hoctet address.third) (hoctet address.fourth)
  constructor
  · intro h
    obtain ⟨group, others, hgroup, hothers, rfl⟩ := List.forall₂_cons_right_iff.1 h
    obtain ⟨other, none, hother, hnone, rfl⟩ := List.forall₂_cons_right_iff.1 hothers
    rw [spellsGroup_unique hgroup hfirst, spellsGroup_unique hother hsecond,
      List.forall₂_nil_right_iff.1 hnone]
    rfl
  · rintro rfl
    exact .cons hfirst (.cons hsecond .nil)

/-- Expansion neither starts from nothing nor ends with nothing. -/
theorem expands_ne_nil {raw parts : List (List Char)} (h : Expands raw parts) :
    raw ≠ [] ∧ parts ≠ [] := by
  cases h <;> simp [octetParts]

/-- What parts spell is what they spell with the IPv4 address taken as two of them. -/
theorem spellsGroups_iff {groups : List UInt16} {raw : List (List Char)} (hraw : raw ≠ []) :
    SpellsGroups groups raw ↔
      ∃ parts, Expands raw parts ∧ List.Forall₂ SpellsGroup groups parts := by
  constructor
  · intro h
    induction h with
    | nil => exact absurd rfl hraw
    | octets address => exact ⟨_, .octets address, forall₂_spellsGroup_octetParts.2 rfl⟩
    | @cons group groups part raw hpart hparts ih =>
      cases raw with
      | nil =>
        cases hparts
        exact ⟨_, .plain fun hpoint ↦ plain_of_spellsGroup hpart hpoint (by simp),
          .cons hpart .nil⟩
      | cons other others =>
        obtain ⟨parts, hexpands, hgroups⟩ := ih (by simp)
        exact ⟨_, .cons hexpands, .cons hpart hgroups⟩
  · rintro ⟨parts, hexpands, hgroups⟩
    induction hexpands generalizing groups with
    | plain => exact spellsGroups_of_forall₂ hgroups
    | octets address =>
      obtain rfl := forall₂_spellsGroup_octetParts.1 hgroups
      exact .octets address
    | cons hexpands ih =>
      obtain ⟨group, others, hpart, hothers, rfl⟩ := List.forall₂_cons_right_iff.1 hgroups
      exact .cons hpart (ih (expands_ne_nil hexpands).1 hothers)

/-- What stands before a gap is not touched by the expansion of the last part. -/
theorem expands_across_gap {high raw low : List (List Char)} (h : Expands raw low) :
    Expands (high ++ [] :: raw) (high ++ [] :: low) := by
  induction high with
  | nil => exact .cons h
  | cons part high ih => exact .cons ih

/-- What stands before the gap and after it, the IPv4 address taken as two parts or not. -/
theorem exists_across_gap {high raw low : List (List Char)} (hlow : low ≠ [])
    (h : Expands raw (high ++ [] :: low)) :
    ∃ rest, raw = high ++ [] :: rest ∧ Expands rest low := by
  generalize hparts : high ++ [] :: low = parts at h
  induction h generalizing high with
  | plain => cases high <;> simp_all
  | octets address =>
    rcases high with _ | ⟨part, _ | ⟨other, high⟩⟩ <;>
      simp_all [octetParts, Text.hexDigits]
  | @cons part raw parts hexpands ih =>
    cases high with
    | nil =>
      obtain ⟨rfl, rfl⟩ := List.cons.inj hparts
      exact ⟨raw, rfl, hexpands⟩
    | cons other high =>
      obtain ⟨rfl, hrest⟩ := List.cons.inj hparts
      obtain ⟨rest, rfl, hlast⟩ := ih hrest
      exact ⟨rest, rfl, hlast⟩

theorem point_mem_text (address : Ipv4) : '.' ∈ address.text.toList := by
  rw [Ipv4.toList_text, List.map_cons, List.map_cons, List.intercalate_cons_cons]
  simp

/-- A single part is expanded when it has a point, which only an IPv4 address has. -/
theorem expands_singleton_iff {part : List Char} {parts : List (List Char)} :
    Expands [part] parts ↔
      if '.' ∈ part then ∃ address, Ipv4.parse? part = some address ∧ parts = octetParts address
      else parts = [part] := by
  constructor
  · rintro (hpoint | address | hrest)
    · rw [if_neg hpoint]
    · rw [if_pos (point_mem_text address)]
      exact ⟨address, Ipv4.parse?_text address, rfl⟩
    · exact absurd rfl (expands_ne_nil hrest).1
  · intro h
    split at h
    · obtain ⟨address, hparse, rfl⟩ := h
      obtain rfl := Ipv4.parse?_eq_some_iff.1 hparse
      exact .octets address
    · next hpoint =>
      subst h
      exact .plain hpoint

/-- Only the last part matters, with which the reader starts. -/
theorem expands_append_singleton_iff {init : List (List Char)} {last : List Char}
    {parts : List (List Char)} :
    Expands (init ++ [last]) parts ↔ ∃ ending, Expands [last] ending ∧ parts = init ++ ending := by
  induction init generalizing parts with
  | nil => simp
  | cons part init ih =>
    constructor
    · intro h
      generalize hraw : part :: init ++ [last] = raw at h
      cases h with
      | plain => simp_all
      | octets => simp_all
      | cons h =>
        obtain ⟨rfl, rfl⟩ := List.cons.inj hraw
        obtain ⟨ending, hending, rfl⟩ := ih.1 h
        exact ⟨ending, hending, rfl⟩
    · rintro ⟨ending, hending, rfl⟩
      exact .cons (ih.2 ⟨ending, hending, rfl⟩)

/-- The parts of a text are those between its colons, with the last one expanded. -/
theorem parts?_eq_some_iff {chars : List Char} {parts : List (List Char)} :
    parts? chars = some parts ↔
      3 ≤ (chars.splitOn ':').length ∧ Expands (chars.splitOn ':') parts := by
  unfold parts?
  generalize chars.splitOn ':' = raw
  rcases List.eq_nil_or_concat raw with rfl | ⟨init, last, rfl⟩
  · simp
  · simp only [List.concat_eq_append, Option.bind_eq_bind, Option.bind_eq_some_iff,
      Option.guard_eq_some', List.getLast?_append_cons, List.getLast?_singleton,
      List.dropLast_concat, Option.some.injEq, exists_eq_left', exists_const,
      expands_append_singleton_iff, expands_singleton_iff]
    refine and_congr_right fun _ ↦ ?_
    by_cases hpoint : '.' ∈ last
    · simp only [if_pos hpoint, if_pos (List.contains_iff_mem.2 hpoint), Option.bind_eq_some_iff,
        Option.pure_def, Option.some.injEq]
      constructor
      · rintro ⟨address, haddress, rfl⟩
        exact ⟨_, ⟨address, haddress, rfl⟩, rfl⟩
      · rintro ⟨_, ⟨address, haddress, rfl⟩, rfl⟩
        exact ⟨address, haddress, rfl⟩
    · have hlast : last.contains '.' = false := by simpa using hpoint
      simp only [if_neg hpoint, hlast, Bool.false_eq_true, if_false, Option.pure_def,
        Option.some.injEq, exists_eq_left]
      exact eq_comm

end Ipv6
end SpanBridge
