import SpanBridge.Proofs.Json.Sound
import SpanBridge.Proofs.Json.Strict

/-!
# The nesting of a text

How many brackets are open at once in a text bounds how far its reader recurses. `Json.nesting`
counts them outside strings, in any text, be it JSON or not. A document that is read is no deeper
than its text is nested (`depth_le_nesting`): a part of a text comes back to the level on which it
starts and reaches all levels of what it spells on the way (`reaches_of_spells`).
-/

set_option autoImplicit false
set_option relaxedAutoImplicit false

namespace SpanBridge.Json

/-! ### Levels -/

mutual

/-- How many arrays and objects of a document stand one in the other. -/
def depth : Json → Nat
  | .arr items => depthOfItems items + 1
  | .obj members => depthOfMembers members + 1
  | _ => 0

/-- The depth of the deepest of some documents. -/
def depthOfItems : List Json → Nat
  | [] => 0
  | item :: items => max (depth item) (depthOfItems items)

/-- The depth of the deepest of the values of some members. -/
def depthOfMembers : List (String × Json) → Nat
  | [] => 0
  | (_, value) :: members => max (depth value) (depthOfMembers members)

end

/-- The highest level that brackets reach from a level. -/
def highestLevel : Nat → List Char → Nat
  | level, [] => level
  | level, c :: rest =>
    if c = '[' ∨ c = '\x7b' then highestLevel (level + 1) rest
    else if c = ']' ∨ c = '\x7d' then max level (highestLevel (level - 1) rest)
    else highestLevel level rest

/-- The highest level that the brackets outside strings reach from a level. -/
def nestingFrom (level : Nat) (chars : List Char) : Nat :=
  highestLevel level (outsideStrings false chars)

/-- How many brackets outside strings are open at once in a text. -/
def nesting (text : String) : Nat := nestingFrom 0 text.toList

/-- A nesting for which a reader that recurses with the brackets has enough room. Of the thousand
calls that are usually allowed inside each other it leaves most to the callers of the reader. -/
def nestingLimit : Nat := 200

/-- A text whose brackets are not nested deeper than that. -/
def IsShallow (text : String) : Prop := nesting text ≤ nestingLimit

instance : DecidablePred IsShallow := fun _ ↦ inferInstanceAs (Decidable (_ ≤ _))

/-- The level on which the characters start counts too. -/
theorem le_highestLevel (level : Nat) (chars : List Char) : level ≤ highestLevel level chars := by
  induction chars generalizing level with
  | nil => exact le_rfl
  | cons c chars ih =>
    unfold highestLevel
    split_ifs
    · exact (Nat.le_succ level).trans (ih (level + 1))
    · exact le_max_left _ _
    · exact ih level

theorem le_nestingFrom (level : Nat) (chars : List Char) : level ≤ nestingFrom level chars :=
  le_highestLevel level _

/-- Members are as deep as the deepest of their values. -/
theorem depthOfMembers_le_iff {members : List (String × Json)} {limit : Nat} :
    depthOfMembers members ≤ limit ↔ ∀ member ∈ members, member.2.depth ≤ limit := by
  induction members with
  | nil => simp [depthOfMembers]
  | cons member members ih => simp [depthOfMembers, ih]

/-- Where members share a name one of their values counts, which makes the object no deeper. -/
theorem depthOfMembers_ofList_le (members : List (String × Json)) :
    depthOfMembers (Entries.ofList (· = ·) members) ≤ depthOfMembers members := by
  have hvalues := @Entries.forall_values_insertAll _ _ (· = ·) _
    (fun value ↦ depth value ≤ depthOfMembers members) members []
  exact depthOfMembers_le_iff.2 (hvalues (depthOfMembers_le_iff.1 le_rfl) (by simp))

/-! ### Characters that stay on a level -/

/-- A character that is no quote and no bracket. -/
def IsFlat (c : Char) : Prop := c ∉ ['"', '[', ']', '\x7b', '\x7d']

instance : DecidablePred IsFlat := fun _ ↦ inferInstanceAs (Decidable (_ ∉ _))

/-- Characters other than brackets and quotes stay on their level. -/
theorem nestingFrom_flat {chars : List Char} (h : ∀ c ∈ chars, IsFlat c) (level : Nat)
    (rest : List Char) : nestingFrom level (chars ++ rest) = nestingFrom level rest := by
  induction chars with
  | nil => rfl
  | cons c chars ih =>
    obtain ⟨hflat, hchars⟩ := List.forall_mem_cons.1 h
    simp only [IsFlat, List.mem_cons, List.not_mem_nil, or_false, not_or] at hflat
    obtain ⟨hquote, harr, harrEnd, hobj, hobjEnd⟩ := hflat
    rw [← ih hchars, nestingFrom, List.cons_append, outsideStrings, highestLevel,
      if_neg (by simp [harr, hobj]), if_neg (by simp [harrEnd, hobjEnd])]
    · rfl
    · exact hquote

theorem nestingFrom_blanks {blanks : List Char} (h : IsBlanks blanks) (level : Nat)
    (rest : List Char) : nestingFrom level (blanks ++ rest) = nestingFrom level rest := by
  refine nestingFrom_flat (fun c hc ↦ ?_) level rest
  have hseparator := h c hc
  simp only [isSeparator, Bool.or_eq_true, decide_eq_true_eq] at hseparator
  rcases hseparator with ((rfl | rfl) | rfl) | rfl <;> decide

theorem nestingFrom_cons_flat {c : Char} (h : IsFlat c) (level : Nat) (rest : List Char) :
    nestingFrom level (c :: rest) = nestingFrom level rest :=
  nestingFrom_flat (List.forall_mem_singleton.2 h) level rest

theorem isFlat_of_asciiDigit {c : Char} {digit : Nat} (h : Number.asciiDigit? c = some digit) :
    IsFlat c := by
  intro hmem
  simp only [List.mem_cons, List.not_mem_nil, or_false] at hmem
  rcases hmem with rfl | rfl | rfl | rfl | rfl <;> cases h

theorem SpellsDigits.isFlat {chars : List Char} {digits : List Nat}
    (h : SpellsDigits chars digits) : ∀ c ∈ chars, IsFlat c := by
  induction h with
  | nil => exact nofun
  | cons hdigit _ ih => exact List.forall_mem_cons.2 ⟨isFlat_of_asciiDigit hdigit, ih⟩

theorem SpellsNumber.isFlat {admits : Nat → Prop} {chars : List Char} {document : Json}
    (h : SpellsNumber admits chars document) : ∀ c ∈ chars, IsFlat c := by
  have hminus : ∀ negative, ∀ c ∈ minusText negative, IsFlat c := by
    rintro (_ | _)
    · exact nofun
    · exact List.forall_mem_singleton.2 (by decide)
  cases h with
  | int hwhole => exact List.forall_mem_append.2 ⟨hminus _, hwhole.1.isFlat⟩
  | double hwhole hdecimals hexponent =>
    simp only [List.forall_mem_append]
    refine ⟨hminus _, hwhole.1.isFlat, ?decimals, ?exponent⟩
    case decimals =>
      cases hdecimals with
      | absent => exact nofun
      | given hdigits => exact List.forall_mem_cons.2 ⟨by decide, hdigits.isFlat⟩
    case exponent =>
      cases hexponent with
      | absent => exact nofun
      | given hmark hsign hdigits =>
        refine List.forall_mem_cons.2 ⟨?_, List.forall_mem_append.2 ⟨?_, hdigits.isFlat⟩⟩
        · rcases hmark with rfl | rfl <;> decide
        · cases hsign with
          | absent => exact nofun
          | plus | minus => exact List.forall_mem_singleton.2 (by decide)

theorem isFlat_of_mem_words : ∀ word ∈ words, ∀ c ∈ word.1, IsFlat c := by
  have hall : (words.all fun word ↦ word.1.all fun c ↦ decide (IsFlat c)) = true := by decide
  simpa only [List.all_eq_true, decide_eq_true_eq] using hall

theorem SpellsNumber.depth_eq_zero {admits : Nat → Prop} {chars : List Char} {document : Json}
    (h : SpellsNumber admits chars document) : document.depth = 0 := by
  cases h <;> rfl

theorem depth_of_mem_words : ∀ word ∈ words, word.2.depth = 0 := by decide

/-! ### Strings and brackets -/

/-- The spelling of a string ends at its closing quote: quotes within it are escaped. -/
theorem outsideStrings_of_spellsUnits {chars : List Char} {units : List Nat}
    (h : SpellsUnits chars units) (rest : List Char) :
    outsideStrings true (chars ++ '"' :: rest) = outsideStrings false rest := by
  induction h with
  | nil => rfl
  | plain hquote hbackslash _ _ ih =>
    rw [List.cons_append, ← ih]
    exact outsideStrings_plain (List.forall_mem_singleton.2 ⟨hquote, hbackslash⟩) _
  | letter _ _ ih =>
    rw [List.cons_append, List.cons_append, ← ih]
    rfl
  | @code a b c d _ chars _ hunit _ ih =>
    have hdigits : ∀ digit ∈ [a, b, c, d], digit ≠ '"' ∧ digit ≠ '\\' := fun digit hdigit ↦
      ⟨ne_of_hexUnit? hunit (by decide) digit hdigit, ne_of_hexUnit? hunit (by decide) digit hdigit⟩
    rw [← ih]
    exact outsideStrings_plain hdigits (chars ++ '"' :: rest)

/-- A string stays on the level on which it stands. -/
theorem nestingFrom_string {chars : List Char} {text : String} (h : SpellsText chars text)
    (level : Nat) (rest : List Char) :
    nestingFrom level ('"' :: (chars ++ '"' :: rest)) = nestingFrom level rest := by
  obtain ⟨units, hunits, -⟩ := h
  rw [nestingFrom, outsideStrings_quote, Bool.not_false, outsideStrings_of_spellsUnits hunits]
  rfl

/-- An opening bracket leads one level up. -/
theorem nestingFrom_opening {opening : Char} (h : opening = '[' ∨ opening = '\x7b') (level : Nat)
    (rest : List Char) : nestingFrom level (opening :: rest) = nestingFrom (level + 1) rest := by
  rcases h with rfl | rfl <;> rfl

/-- A closing bracket leads back to the level below. -/
theorem nestingFrom_closing {closing : Char} (h : closing = ']' ∨ closing = '\x7d') (level : Nat)
    (rest : List Char) :
    nestingFrom (level + 1) (closing :: rest) = max (level + 1) (nestingFrom level rest) := by
  rcases h with rfl | rfl <;> rfl

theorem isFlat_colon : IsFlat ':' := by decide

/-! ### Parts of a text -/

/-- How many brackets are open where a part of a text starts and closed where it ends. -/
def Part.opened : Part → Nat
  | .value _ => 0
  | .items .. | .members .. => 1

/-- The depth of what a part of a text belongs to. -/
def Part.depth : Part → Nat
  | .value document => document.depth
  | .items documents => depthOfItems documents + 1
  | .members given => depthOfMembers given + 1

/-- A value without brackets reaches the level on which it stands. -/
theorem reaches_of_flat {chars rest : List Char} {document : Json} {level limit : Nat}
    (hflat : ∀ c ∈ chars, IsFlat c) (hdepth : document.depth = 0)
    (hnesting : nestingFrom level (chars ++ rest) ≤ limit) :
    level + document.depth ≤ limit ∧ nestingFrom level rest ≤ limit := by
  rw [nestingFrom_flat hflat] at hnesting
  rw [hdepth]
  exact ⟨(le_nestingFrom level rest).trans hnesting, hnesting⟩

/-- The level inside a bracket is still reached where the bracket is closed. -/
theorem reaches_of_closing {closing : Char} {rest : List Char} {level limit : Nat}
    (hclosing : closing = ']' ∨ closing = '\x7d')
    (hnesting : nestingFrom (level + 1) (closing :: rest) ≤ limit) :
    level + 1 ≤ limit ∧ nestingFrom level rest ≤ limit := by
  rwa [nestingFrom_closing hclosing, max_le_iff] at hnesting

/-- A part of a text reaches all levels of what it spells and comes back to the one on which it
started, less what it closes. -/
theorem reaches_of_spells {admits : Nat → Prop} {chars : List Char} {part : Part}
    (h : Spells admits chars part) {level limit : Nat} {rest : List Char}
    (hnesting : nestingFrom (level + part.opened) (chars ++ rest) ≤ limit) :
    level + part.depth ≤ limit ∧ nestingFrom level rest ≤ limit := by
  induction h generalizing level rest with
  | word hword =>
    exact reaches_of_flat (isFlat_of_mem_words _ hword) (depth_of_mem_words _ hword) hnesting
  | number h => exact reaches_of_flat h.isFlat h.depth_eq_zero hnesting
  | str h =>
    simp only [Part.opened, List.cons_append, List.append_assoc, List.nil_append,
      nestingFrom_string h] at hnesting
    exact ⟨(le_nestingFrom level rest).trans hnesting, hnesting⟩
  | emptyArr hblanks =>
    simp only [Part.opened, List.cons_append, List.append_assoc, List.nil_append,
      nestingFrom_opening (.inl rfl), nestingFrom_blanks hblanks] at hnesting
    exact reaches_of_closing (.inl rfl) hnesting
  | emptyObj hblanks =>
    simp only [Part.opened, List.cons_append, List.append_assoc, List.nil_append,
      nestingFrom_opening (.inr rfl), nestingFrom_blanks hblanks] at hnesting
    exact reaches_of_closing (.inr rfl) hnesting
  | arr hblanks _ ih =>
    simp only [List.cons_append, List.append_assoc, nestingFrom_opening (.inl rfl),
      nestingFrom_blanks hblanks] at hnesting
    exact ih hnesting
  | @obj _ _ members hblanks _ ih =>
    simp only [List.cons_append, List.append_assoc, nestingFrom_opening (.inr rfl),
      nestingFrom_blanks hblanks] at hnesting
    obtain ⟨hdepth, hrest⟩ := ih hnesting
    have hfewer := depthOfMembers_ofList_le members
    simp only [Part.depth, depth] at hdepth ⊢
    exact ⟨by omega, hrest⟩
  | lastItem _ hbefore ih =>
    simp only [List.append_assoc, List.cons_append, List.nil_append] at hnesting
    obtain ⟨hdepth, hafter⟩ := @ih (level + 1) _ hnesting
    rw [nestingFrom_blanks hbefore] at hafter
    obtain ⟨-, hrest⟩ := reaches_of_closing (.inl rfl) hafter
    simp only [Part.depth, depthOfItems] at hdepth ⊢
    exact ⟨by omega, hrest⟩
  | item _ hbefore hafter _ ih ihrest =>
    simp only [List.append_assoc, List.cons_append] at hnesting
    obtain ⟨hdepth, hmore⟩ := @ih (level + 1) _ hnesting
    rw [nestingFrom_blanks hbefore, nestingFrom_cons_flat (by decide), nestingFrom_blanks hafter]
      at hmore
    obtain ⟨hdepths, hrest⟩ := ihrest hmore
    simp only [Part.depth, depthOfItems] at hdepth hdepths ⊢
    exact ⟨by omega, hrest⟩
  | lastMember hname hbeforeColon hafterColon _ hbefore ih =>
    simp only [List.append_assoc, List.cons_append, List.nil_append, nestingFrom_string hname,
      nestingFrom_blanks hbeforeColon, nestingFrom_cons_flat isFlat_colon,
      nestingFrom_blanks hafterColon] at hnesting
    obtain ⟨hdepth, hafter⟩ := @ih (level + 1) _ hnesting
    rw [nestingFrom_blanks hbefore] at hafter
    obtain ⟨-, hrest⟩ := reaches_of_closing (.inr rfl) hafter
    simp only [Part.depth, depthOfMembers] at hdepth ⊢
    exact ⟨by omega, hrest⟩
  | member hname hbeforeColon hafterColon _ hbefore hafter _ ih ihrest =>
    simp only [List.append_assoc, List.cons_append, nestingFrom_string hname,
      nestingFrom_blanks hbeforeColon, nestingFrom_cons_flat isFlat_colon,
      nestingFrom_blanks hafterColon] at hnesting
    obtain ⟨hdepth, hmore⟩ := @ih (level + 1) _ hnesting
    rw [nestingFrom_blanks hbefore, nestingFrom_cons_flat (by decide), nestingFrom_blanks hafter]
      at hmore
    obtain ⟨hdepths, hrest⟩ := ihrest hmore
    simp only [Part.depth, depthOfMembers] at hdepth hdepths ⊢
    exact ⟨by omega, hrest⟩

/-- A document that is read is no deeper than its text is nested. -/
theorem depth_le_nesting {text : String} {document : Json} (h : read text = .ok document) :
    document.depth ≤ nesting text := by
  obtain ⟨before, chars, after, hbefore, hspells, -, htext⟩ := read_eq_ok_iff.1 h
  have hnesting : nestingFrom 0 (chars ++ after) = nesting text := by
    rw [nesting, htext, nestingFrom_blanks hbefore]
  obtain ⟨hdepth, -⟩ := @reaches_of_spells _ _ _ hspells 0 (nesting text) after hnesting.le
  rwa [Nat.zero_add] at hdepth

/-- Brackets in a string do not count, and neither does it matter that some are not closed. -/
example : nesting "[\"[[\", \x7b\"a\": []" = 3 := by decide

end SpanBridge.Json
