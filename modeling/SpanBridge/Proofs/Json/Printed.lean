import SpanBridge.Proofs.Json.Bounded
import SpanBridge.Proofs.Json.Sound

/-!
# What is written is read back

A document without numbers of double precision, whose integers are within the limit and whose
objects have no name twice (`Json.IsExact`), is written as a JSON text in every layout
(`spells_write`), so that reading returns the document itself (`read_print`). The text is ASCII, and
without an indent it has no line break (`writes_of_mem_write`).
-/

set_option autoImplicit false
set_option relaxedAutoImplicit false

namespace SpanBridge.Json

/-- A document of which writing loses nothing and reading restores everything. -/
inductive IsExact : Json → Prop where
  | null : IsExact .null
  | bool (truth : Bool) : IsExact (.bool truth)
  | int {number : Int} (h : Number.WithinLimit number) : IsExact (.int number)
  | str (text : String) : IsExact (.str text)
  | arr {items : List Json} (h : ∀ item ∈ items, IsExact item) : IsExact (.arr items)
  | obj {members : List (String × Json)} (h : ∀ member ∈ members, IsExact member.2)
      (hnames : Entries.Distinct (· = ·) members) : IsExact (.obj members)

/-- A document that is written exactly has no integer beyond the digit limit. -/
theorem IsExact.isBounded {document : Json} (h : document.IsExact) : document.IsBounded := by
  induction h with
  | null => exact .null
  | bool truth => exact .bool truth
  | int hlimit => exact .int hlimit
  | str text => exact .str text
  | arr _ ih => exact .arr ih
  | obj _ _ ih => exact .obj ih

/-! ### Layouts -/

/-- The printable characters of ASCII. -/
def IsPlain (c : Char) : Prop := 0x20 ≤ c.toNat ∧ c.toNat < 0x7f

instance (c : Char) : Decidable (IsPlain c) :=
  inferInstanceAs (Decidable (0x20 ≤ c.toNat ∧ c.toNat < 0x7f))

theorem forall_isPlain {chars : List Char} (h : chars.all (fun c ↦ decide (IsPlain c)) = true) :
    ∀ c ∈ chars, IsPlain c :=
  fun c hc ↦ of_decide_eq_true (List.all_eq_true.1 h c hc)

/-- A layout whose separators are those of JSON with blanks after them, on one line. -/
structure Layout.IsSeparating (layout : Layout) : Prop where
  items : ∃ blanks, IsBlanks blanks ∧ layout.itemSeparator = ',' :: blanks
  names : ∃ blanks, IsBlanks blanks ∧ layout.nameSeparator = ':' :: blanks
  plain : ∀ c ∈ layout.itemSeparator ++ layout.nameSeparator, IsPlain c

theorem isBlanks_space : IsBlanks [' '] := List.forall_mem_singleton.2 rfl

theorem Layout.isSeparating_compact : Layout.compact.IsSeparating :=
  ⟨⟨[], isBlanks_nil, rfl⟩, ⟨[], isBlanks_nil, rfl⟩, forall_isPlain rfl⟩

theorem Layout.isSeparating_spaced : Layout.spaced.IsSeparating :=
  ⟨⟨[' '], isBlanks_space, rfl⟩, ⟨[' '], isBlanks_space, rfl⟩, forall_isPlain rfl⟩

theorem Layout.isSeparating_indented (spaces : Nat) : (Layout.indented spaces).IsSeparating :=
  ⟨⟨[], isBlanks_nil, rfl⟩, ⟨[' '], isBlanks_space, rfl⟩, forall_isPlain rfl⟩

/-- A line break of a layout consists of blanks, whatever the level. -/
theorem Layout.isBlanks_lineBreak (layout : Layout) (level : Nat) :
    IsBlanks (layout.lineBreak level) := by
  unfold Layout.lineBreak
  split
  · exact isBlanks_nil
  · refine List.forall_mem_cons.2 ⟨rfl, fun c hc ↦ ?_⟩
    rw [List.eq_of_mem_replicate hc]
    rfl

/-! ### Integers -/

theorem spellsDigits_of_isDigit {chars : List Char} (h : ∀ c ∈ chars, c.isDigit = true) :
    SpellsDigits chars (chars.map fun c ↦ c.toNat - 48) := by
  induction chars with
  | nil => exact .nil
  | cons c chars ih =>
    exact .cons (Number.asciiDigit_of_isDigit (h c List.mem_cons_self))
      (ih fun other hother ↦ h other (List.mem_cons_of_mem _ hother))

/-- The decimal text of an integer spells it. -/
theorem spellsNumber_toString {number : Int} (h : Number.WithinLimit number) :
    SpellsNumber WithinDigits (toString number).toList (.int number) := by
  have hdigit : ∀ c ∈ Nat.toDigits 10 number.natAbs, c.isDigit = true :=
    fun c hc ↦ Nat.isDigit_of_mem_toDigits (by decide) (by decide) hc
  have hwhole : SpellsWhole (Nat.toDigits 10 number.natAbs)
      ((Nat.toDigits 10 number.natAbs).map fun c ↦ c.toNat - 48) := by
    refine ⟨spellsDigits_of_isDigit hdigit, by simp, fun hhead ↦ ?_⟩
    have hzero : number.natAbs = 0 := by
      refine Number.eq_zero_of_head?_toDigits ?_
      rw [List.head?_map] at hhead
      obtain ⟨c, hc, hvalue⟩ := Option.map_eq_some_iff.1 hhead
      have hrange := Number.toNat_le_of_isDigit (hdigit c (List.mem_of_head? hc))
      have hcode : c.toNat = ('0' : Char).toNat := by
        show c.toNat = 48
        omega
      rw [hc, Char.toNat_inj.1 hcode]
    rw [hzero]
    rfl
  have hlength :
      WithinDigits ((Nat.toDigits 10 number.natAbs).map fun c ↦ c.toNat - 48).length := by
    rw [List.length_map]
    exact h
  have hnumber := @SpellsNumber.int WithinDigits (decide (number < 0)) _ _ hwhole hlength
  rw [Number.ofDigits_map_toNat, Nat.ofDigitChars_ten_toDigits, Number.signed_natAbs] at hnumber
  have htext : (toString number).toList =
      minusText (decide (number < 0)) ++ Nat.toDigits 10 number.natAbs := by
    have hsign : minusText (decide (number < 0)) = if number < 0 then ['-'] else [] := by
      simp only [minusText, decide_eq_true_eq]
    rw [hsign]
    exact Number.toList_integerText number
  rwa [htext]

/-! ### Arrays and objects -/

section Parts

variable {layout : Layout} {level : Nat}

/-- Written items and the closing bracket after them, without the blanks before the first. -/
theorem spells_items (hlayout : layout.IsSeparating) {item : Json} {items : List Json}
    (h : ∀ other ∈ item :: items,
      Spells WithinDigits (write layout (level + 1) other) (.value other)) :
    ∃ chars, Spells WithinDigits chars (.items (item :: items)) ∧
      joinItems layout (level + 1) (writeItems layout (level + 1) (item :: items)) ++
        (layout.lineBreak level ++ [']']) = layout.lineBreak (level + 1) ++ chars := by
  induction items generalizing item with
  | nil =>
    refine ⟨_, .lastItem (h item List.mem_cons_self) (layout.isBlanks_lineBreak level), ?_⟩
    simp only [writeItems, joinItems, List.append_assoc]
  | cons second items ih =>
    obtain ⟨chars, hspells, hchars⟩ := ih fun other hother ↦ h other (List.mem_cons_of_mem _ hother)
    obtain ⟨blanks, hblanks, hseparator⟩ := hlayout.items
    refine ⟨_, .item (h item List.mem_cons_self) isBlanks_nil
      (hblanks.append (layout.isBlanks_lineBreak (level + 1))) hspells, ?_⟩
    rw [writeItems] at hchars
    simp only [writeItems, joinItems, List.append_assoc, hchars, hseparator, List.cons_append,
      List.nil_append]

/-- Written members and the closing brace after them, without the blanks before the first. -/
theorem spells_members (hlayout : layout.IsSeparating) {member : String × Json}
    {members : List (String × Json)}
    (h : ∀ other ∈ member :: members,
      Spells WithinDigits (write layout (level + 1) other.2) (.value other.2)) :
    ∃ chars, Spells WithinDigits chars (.members (member :: members)) ∧
      joinItems layout (level + 1) (writeMembers layout (level + 1) (member :: members)) ++
        (layout.lineBreak level ++ ['\x7d']) = layout.lineBreak (level + 1) ++ chars := by
  obtain ⟨afterColon, hafterColon, hcolon⟩ := hlayout.names
  induction members generalizing member with
  | nil =>
    refine ⟨_, .lastMember (spellsText_flatMap_escapeChar member.1) isBlanks_nil hafterColon
      (h member List.mem_cons_self) (layout.isBlanks_lineBreak level), ?_⟩
    simp only [writeMembers, joinItems, writeString, hcolon, List.append_assoc, List.cons_append,
      List.nil_append]
  | cons second members ih =>
    obtain ⟨chars, hspells, hchars⟩ := ih fun other hother ↦ h other (List.mem_cons_of_mem _ hother)
    obtain ⟨blanks, hblanks, hseparator⟩ := hlayout.items
    refine ⟨_, .member (spellsText_flatMap_escapeChar member.1) isBlanks_nil hafterColon
      (h member List.mem_cons_self) isBlanks_nil
      (hblanks.append (layout.isBlanks_lineBreak (level + 1))) hspells, ?_⟩
    simp only [writeMembers, writeString, hcolon, List.append_assoc, List.cons_append,
      List.nil_append] at hchars ⊢
    simp only [joinItems, hseparator, hchars, List.append_assoc, List.cons_append]

end Parts

/-! ### Whole documents -/

/-- Members with different names are all kept. -/
theorem ofList_eq_self {members : List (String × Json)} (h : Entries.Distinct (· = ·) members) :
    Entries.ofList (· = ·) members = members :=
  Entries.insertAll_of_distinct h

/-- An exact document is written as a text that spells it. -/
theorem spells_write {layout : Layout} (hlayout : layout.IsSeparating) {document : Json}
    (h : document.IsExact) (level : Nat) :
    Spells WithinDigits (write layout level document) (.value document) := by
  induction h generalizing level with
  | null => exact .word (by simp [words, write])
  | bool truth => cases truth <;> exact .word (by simp [words, write])
  | int hlimit => exact .number (spellsNumber_toString hlimit)
  | str text => exact .str (spellsText_flatMap_escapeChar text)
  | @arr items _ ih =>
    cases items with
    | nil => exact .emptyArr isBlanks_nil
    | cons item items =>
      obtain ⟨chars, hspells, hchars⟩ := @spells_items layout level hlayout item items
        fun other hother ↦ ih other hother (level + 1)
      have htext : write layout level (.arr (item :: items)) =
          '[' :: (layout.lineBreak (level + 1) ++ chars) := by
        rw [← hchars, write, writeItems, bracketed]
        simp
      rw [htext]
      exact .arr (layout.isBlanks_lineBreak (level + 1)) hspells
  | @obj members _ hnames ih =>
    cases members with
    | nil => exact .emptyObj isBlanks_nil
    | cons member members =>
      obtain ⟨chars, hspells, hchars⟩ := @spells_members layout level hlayout member members
        fun other hother ↦ ih other hother (level + 1)
      have htext : write layout level (.obj (member :: members)) =
          '\x7b' :: (layout.lineBreak (level + 1) ++ chars) := by
        rw [← hchars, write, writeMembers, bracketed]
        simp
      rw [htext]
      have hobj := Spells.obj (layout.isBlanks_lineBreak (level + 1)) hspells
      rwa [ofList_eq_self hnames] at hobj

/-- Reading undoes writing, whatever the layout. -/
theorem read_print {layout : Layout} (hlayout : layout.IsSeparating) {document : Json}
    (h : document.IsExact) : read (document.print layout) = .ok document := by
  refine read_eq_ok_iff.2 ⟨[], _, [], isBlanks_nil, spells_write hlayout h 0, isBlanks_nil, ?_⟩
  rw [print, String.toList_ofList, List.nil_append, List.append_nil]

/-! ### Characters of a written text -/

/-- Each digit of a hexadecimal text is one of the sixteen. -/
theorem mem_hexDigits {width value : Nat} {c : Char} (h : c ∈ Text.hexDigits width value) :
    ∃ digit < 16, c = Text.hexDigit digit := by
  induction width generalizing value with
  | zero => cases h
  | succ width ih =>
    rcases List.mem_append.1 h with h | h
    · exact ih h
    · exact ⟨value % 16, Nat.mod_lt _ (by decide), List.mem_singleton.1 h⟩

/-- An escape has printable ASCII characters only. -/
theorem isPlain_of_mem_escapeUnit {unit : Nat} {c : Char} (h : c ∈ escapeUnit unit) :
    IsPlain c := by
  have hdigit : ∀ digit < 16, IsPlain (Text.hexDigit digit) := by decide
  rcases List.mem_cons.1 h with rfl | h
  · decide
  rcases List.mem_cons.1 h with rfl | h
  · decide
  · obtain ⟨digit, hlt, rfl⟩ := mem_hexDigits h
    exact hdigit digit hlt

/-- A character is written with printable ASCII characters only. -/
theorem isPlain_of_mem_escapeChar {escaped c : Char} (h : c ∈ escapeChar escaped) : IsPlain c := by
  have hletter : ∀ letter, IsPlain letter → ∀ c ∈ ['\\', letter], IsPlain c :=
    fun letter hplain ↦ List.forall_mem_cons.2 ⟨by decide, List.forall_mem_singleton.2 hplain⟩
  unfold escapeChar at h
  split_ifs at h with hmark hline hreturn htab hfeed hback hplain hsmall
  · have hmark : escaped = '"' ∨ escaped = '\\' := by simpa using hmark
    rcases hmark with rfl | rfl
    · exact hletter '"' (by decide) c h
    · exact hletter '\\' (by decide) c h
  · exact hletter 'n' (by decide) c h
  · exact hletter 'r' (by decide) c h
  · exact hletter 't' (by decide) c h
  · exact hletter 'f' (by decide) c h
  · exact hletter 'b' (by decide) c h
  · rw [List.mem_singleton.1 h]
    simpa [IsPlain] using hplain
  · exact isPlain_of_mem_escapeUnit h
  · rcases List.mem_append.1 h with h | h
    · exact isPlain_of_mem_escapeUnit h
    · exact isPlain_of_mem_escapeUnit h

/-- A string is written with printable ASCII characters only. -/
theorem isPlain_of_mem_writeString {text : String} {c : Char} (h : c ∈ writeString text) :
    IsPlain c := by
  rcases List.mem_cons.1 h with rfl | h
  · decide
  rcases List.mem_append.1 h with h | h
  · obtain ⟨escaped, -, h⟩ := List.mem_flatMap.1 h
    exact isPlain_of_mem_escapeChar h
  · rw [List.mem_singleton.1 h]
    decide

theorem isPlain_of_mem_toString {number : Int} {c : Char} (h : c ∈ (toString number).toList) :
    IsPlain c := by
  rcases Number.mem_integerText h with rfl | hdigit
  · decide
  · have hrange := Number.toNat_le_of_isDigit hdigit
    constructor <;> omega

/-- The characters of a text in a layout: printable ones of ASCII, and line breaks if there is an
indent. -/
def Layout.Writes (layout : Layout) (c : Char) : Prop :=
  IsPlain c ∨ c = '\n' ∧ layout.indent ≠ none

section Characters

variable {layout : Layout}

/-- A line break has no characters but those that its layout writes. -/
theorem writes_of_mem_lineBreak {level : Nat} {c : Char} (h : c ∈ layout.lineBreak level) :
    layout.Writes c := by
  unfold Layout.lineBreak at h
  cases hindent : layout.indent with
  | none =>
    rw [hindent] at h
    cases h
  | some spaces =>
    rw [hindent] at h
    rcases List.mem_cons.1 h with rfl | h
    · exact .inr ⟨rfl, by simp [hindent]⟩
    · rw [List.eq_of_mem_replicate h]
      exact .inl (by decide)

theorem writes_of_mem_joinItems (hlayout : layout.IsSeparating) {level : Nat}
    {texts : List (List Char)} (htexts : ∀ text ∈ texts, ∀ c ∈ text, layout.Writes c) :
    ∀ c ∈ joinItems layout level texts, layout.Writes c := by
  fun_induction joinItems layout level texts with
  | case1 => exact nofun
  | case2 text =>
    intro c hc
    rcases List.mem_append.1 hc with hc | hc
    · exact writes_of_mem_lineBreak hc
    · exact htexts text List.mem_cons_self c hc
  | case3 text texts _ ih =>
    intro c hc
    simp only [List.mem_append] at hc
    rcases hc with ((hc | hc) | hc) | hc
    · exact writes_of_mem_lineBreak hc
    · exact htexts text List.mem_cons_self c hc
    · exact .inl (hlayout.plain c (List.mem_append_left _ hc))
    · exact ih (fun other hother ↦ htexts other (List.mem_cons_of_mem _ hother)) c hc

/-- Brackets around texts add no characters but those that the layout writes. -/
theorem writes_of_mem_bracketed (hlayout : layout.IsSeparating) {level : Nat}
    {opening closing : Char} (hopening : IsPlain opening) (hclosing : IsPlain closing)
    {texts : List (List Char)} (htexts : ∀ text ∈ texts, ∀ c ∈ text, layout.Writes c) :
    ∀ c ∈ bracketed layout level opening closing texts, layout.Writes c := by
  intro c hc
  unfold bracketed at hc
  split at hc
  · simp only [List.mem_cons, List.not_mem_nil, or_false] at hc
    rcases hc with rfl | rfl
    · exact .inl hopening
    · exact .inl hclosing
  · simp only [List.cons_append, List.mem_cons, List.mem_append, List.not_mem_nil, or_false] at hc
    rcases hc with rfl | (hc | hc) | rfl
    · exact .inl hopening
    · exact writes_of_mem_joinItems hlayout htexts c hc
    · exact writes_of_mem_lineBreak hc
    · exact .inl hclosing

/-- Every text among the items is the one of an item. -/
theorem exists_of_mem_writeItems {level : Nat} {items : List Json} {text : List Char}
    (h : text ∈ writeItems layout level items) :
    ∃ item ∈ items, text = write layout level item := by
  induction items with
  | nil => cases h
  | cons item items ih =>
    rcases List.mem_cons.1 h with rfl | h
    · exact ⟨item, List.mem_cons_self, rfl⟩
    · obtain ⟨other, hother, rfl⟩ := ih h
      exact ⟨other, List.mem_cons_of_mem _ hother, rfl⟩

/-- Every text among the members has the name of a member with its value. -/
theorem exists_of_mem_writeMembers {level : Nat} {members : List (String × Json)}
    {text : List Char} (h : text ∈ writeMembers layout level members) :
    ∃ member ∈ members,
      text = writeString member.1 ++ layout.nameSeparator ++ write layout level member.2 := by
  induction members with
  | nil => cases h
  | cons member members ih =>
    rcases List.mem_cons.1 h with rfl | h
    · exact ⟨member, List.mem_cons_self, rfl⟩
    · obtain ⟨other, hother, rfl⟩ := ih h
      exact ⟨other, List.mem_cons_of_mem _ hother, rfl⟩

/-- A document is written with the characters of its layout only. -/
theorem writes_of_mem_write (hlayout : layout.IsSeparating) {document : Json}
    (h : document.IsExact) (level : Nat) : ∀ c ∈ write layout level document, layout.Writes c := by
  induction h generalizing level with
  | null => exact fun c hc ↦ .inl (@forall_isPlain ['n', 'u', 'l', 'l'] rfl c hc)
  | bool truth =>
    cases truth with
    | true => exact fun c hc ↦ .inl (@forall_isPlain ['t', 'r', 'u', 'e'] rfl c hc)
    | false => exact fun c hc ↦ .inl (@forall_isPlain ['f', 'a', 'l', 's', 'e'] rfl c hc)
  | int => exact fun c hc ↦ .inl (isPlain_of_mem_toString hc)
  | str text => exact fun c hc ↦ .inl (isPlain_of_mem_writeString hc)
  | arr _ ih =>
    refine writes_of_mem_bracketed hlayout (by decide) (by decide) fun text htext ↦ ?_
    obtain ⟨item, hitem, rfl⟩ := exists_of_mem_writeItems htext
    exact ih item hitem (level + 1)
  | obj _ _ ih =>
    refine writes_of_mem_bracketed hlayout (by decide) (by decide) fun text htext c hc ↦ ?_
    obtain ⟨member, hmember, rfl⟩ := exists_of_mem_writeMembers htext
    simp only [List.mem_append] at hc
    rcases hc with (hc | hc) | hc
    · exact .inl (isPlain_of_mem_writeString hc)
    · exact .inl (hlayout.plain c (List.mem_append_right _ hc))
    · exact ih member hmember (level + 1) c hc

end Characters

end SpanBridge.Json
