import SpanBridge.Proofs.Json.Complete

/-!
# What is read is a JSON text

Whatever is read spells what it is read as (`readsSpelled`), and reading stops for too many digits
only at a numeral that has them. Together with the converse a text is refused as malformed exactly
when it is no JSON text, numerals of too many digits aside (`not_isWellFormed_of_malformed`,
`malformed_of_not_isWellFormed`).
-/

set_option autoImplicit false
set_option relaxedAutoImplicit false

namespace SpanBridge.Json

/-- The numbers of digits that are read. -/
def WithinDigits (count : Nat) : Prop := count ≤ Number.digitLimit

/-- What is read with some fuel are the characters that spell it. -/
structure ReadsSpelled (fuel : Nat) : Prop where
  value : ∀ {chars after : List Char} {document : Json},
    readValue fuel chars = .ok (document, after) →
      ∃ spelling, Spells WithinDigits spelling (.value document) ∧ chars = spelling ++ after
  items : ∀ {chars after : List Char} {items : List Json},
    readItems fuel chars = .ok (items, after) →
      ∃ spelling, Spells WithinDigits spelling (.items items) ∧ chars = spelling ++ after
  members : ∀ {chars after : List Char} {members : List (String × Json)},
    readMembers fuel chars = .ok (members, after) →
      ∃ spelling, Spells WithinDigits spelling (.members members) ∧ chars = spelling ++ after

/-- A word that is read stands at the start of the text. -/
theorem mem_words_of_readWord? {chars after : List Char} {document : Json}
    (h : readWord? chars = some (document, after)) :
    ∃ word, (word, document) ∈ words ∧ chars = word ++ after := by
  have hword : ∀ {word chars after : List Char}, afterWord? word chars = some after →
      chars = word ++ after := by
    intro word chars after hafter
    fun_induction afterWord? word chars with
    | case1 => exact Option.some.inj hafter
    | case3 word c chars ih => exact congrArg (List.cons c) (ih hafter)
    | case2 | case4 => cases hafter
  obtain ⟨⟨word, value⟩, hmem, hafter⟩ := List.exists_of_findSome?_eq_some h
  obtain ⟨rest, hrest, hpair⟩ := Option.map_eq_some_iff.1 hafter
  obtain ⟨rfl, rfl⟩ := Prod.mk.inj hpair
  exact ⟨word, hmem, hword hrest⟩

theorem exists_spells_of_readValue {fuel : Nat} (ih : ReadsSpelled fuel)
    {chars after : List Char} {document : Json}
    (h : readValue (fuel + 1) chars = .ok (document, after)) :
    ∃ spelling, Spells WithinDigits spelling (.value document) ∧ chars = spelling ++ after := by
  unfold readValue at h
  split at h
  · next rest =>
    obtain ⟨⟨text, tail⟩, htext, hpair⟩ := bind_eq_ok_iff.1 h
    obtain ⟨rfl, rfl⟩ := Prod.mk.inj (Except.ok.inj hpair)
    obtain ⟨spelling, hspells, rfl⟩ := exists_spellsText htext
    exact ⟨_, .str hspells, by simp⟩
  · next rest =>
    obtain ⟨blanks, hblanks, hrest⟩ := exists_blanks rest
    split at h
    · next heq =>
      obtain ⟨rfl, rfl⟩ := Prod.mk.inj (Except.ok.inj h)
      rw [heq] at hrest
      exact ⟨_, .emptyArr hblanks, by simp [hrest]⟩
    · obtain ⟨⟨items, tail⟩, hitems, hpair⟩ := bind_eq_ok_iff.1 h
      obtain ⟨rfl, rfl⟩ := Prod.mk.inj (Except.ok.inj hpair)
      obtain ⟨spelling, hspells, hskip⟩ := ih.items hitems
      rw [hskip] at hrest
      exact ⟨_, .arr hblanks hspells, by simp [hrest]⟩
  · next rest =>
    obtain ⟨blanks, hblanks, hrest⟩ := exists_blanks rest
    split at h
    · next heq =>
      obtain ⟨rfl, rfl⟩ := Prod.mk.inj (Except.ok.inj h)
      rw [heq] at hrest
      exact ⟨_, .emptyObj hblanks, by simp [hrest]⟩
    · obtain ⟨⟨members, tail⟩, hmembers, hpair⟩ := bind_eq_ok_iff.1 h
      obtain ⟨rfl, rfl⟩ := Prod.mk.inj (Except.ok.inj hpair)
      obtain ⟨spelling, hspells, hskip⟩ := ih.members hmembers
      rw [hskip] at hrest
      exact ⟨_, .obj hblanks hspells, by simp [hrest]⟩
  · split at h
    · next hword =>
      obtain ⟨rfl, rfl⟩ := Prod.mk.inj (Except.ok.inj h)
      obtain ⟨word, hmem, rfl⟩ := mem_words_of_readWord? hword
      exact ⟨word, .word hmem, rfl⟩
    · obtain ⟨spelling, hspells, rfl⟩ := exists_spellsNumber h
      exact ⟨spelling, .number hspells, rfl⟩

theorem exists_spells_of_readItems {fuel : Nat} (ih : ReadsSpelled fuel)
    {chars after : List Char} {items : List Json}
    (h : readItems (fuel + 1) chars = .ok (items, after)) :
    ∃ spelling, Spells WithinDigits spelling (.items items) ∧ chars = spelling ++ after := by
  unfold readItems at h
  obtain ⟨⟨item, rest⟩, hitem, hafterItem⟩ := bind_eq_ok_iff.1 h
  obtain ⟨spelling, hspells, rfl⟩ := ih.value hitem
  obtain ⟨before, hbefore, hrest⟩ := exists_blanks rest
  dsimp only at hafterItem
  split at hafterItem
  · next heq =>
    obtain ⟨rfl, rfl⟩ := Prod.mk.inj (Except.ok.inj hafterItem)
    rw [heq] at hrest
    exact ⟨_, .lastItem hspells hbefore, by simp [hrest]⟩
  · next next heq =>
    obtain ⟨⟨others, tail⟩, hothers, hpair⟩ := bind_eq_ok_iff.1 hafterItem
    obtain ⟨rfl, rfl⟩ := Prod.mk.inj (Except.ok.inj hpair)
    obtain ⟨after, hafter, hnext⟩ := exists_blanks next
    obtain ⟨spelling', hspells', hskip⟩ := ih.items hothers
    rw [heq, hnext, hskip] at hrest
    exact ⟨_, .item hspells hbefore hafter hspells', by simp [hrest]⟩
  · cases hafterItem

theorem exists_spells_of_readMembers {fuel : Nat} (ih : ReadsSpelled fuel)
    {chars after : List Char} {members : List (String × Json)}
    (h : readMembers (fuel + 1) chars = .ok (members, after)) :
    ∃ spelling, Spells WithinDigits spelling (.members members) ∧ chars = spelling ++ after := by
  unfold readMembers at h
  split at h
  · next rest =>
    obtain ⟨⟨name, tail⟩, hname, hafterName⟩ := bind_eq_ok_iff.1 h
    obtain ⟨nameChars, hspellsName, rfl⟩ := exists_spellsText hname
    obtain ⟨beforeColon, hbeforeColon, htail⟩ := exists_blanks tail
    dsimp only at hafterName
    split at hafterName
    · next colonRest hcolon =>
      obtain ⟨⟨value, rest⟩, hvalue, hafterValue⟩ := bind_eq_ok_iff.1 hafterName
      obtain ⟨afterColon, hafterColon, hcolonRest⟩ := exists_blanks colonRest
      obtain ⟨spelling, hspells, hskip⟩ := ih.value hvalue
      obtain ⟨before, hbefore, hrest⟩ := exists_blanks rest
      rw [hcolon, hcolonRest, hskip] at htail
      dsimp only at hafterValue
      split at hafterValue
      · next heq =>
        obtain ⟨rfl, rfl⟩ := Prod.mk.inj (Except.ok.inj hafterValue)
        rw [hrest, heq] at htail
        exact ⟨_, .lastMember hspellsName hbeforeColon hafterColon hspells hbefore,
          by simp [htail]⟩
      · next next heq =>
        obtain ⟨⟨others, tail'⟩, hothers, hpair⟩ := bind_eq_ok_iff.1 hafterValue
        obtain ⟨rfl, rfl⟩ := Prod.mk.inj (Except.ok.inj hpair)
        obtain ⟨after, hafter, hnext⟩ := exists_blanks next
        obtain ⟨spelling', hspells', hskip'⟩ := ih.members hothers
        rw [hrest, heq, hnext, hskip'] at htail
        exact ⟨_, .member hspellsName hbeforeColon hafterColon hspells hbefore hafter hspells',
          by simp [htail]⟩
      · cases hafterValue
    · cases hafterName
  · cases h

/-- Whatever is read is spelled by the characters that were read for it. -/
theorem readsSpelled (fuel : Nat) : ReadsSpelled fuel := by
  induction fuel with
  | zero => exact ⟨nofun, nofun, nofun⟩
  | succ fuel ih =>
    exact ⟨exists_spells_of_readValue ih, exists_spells_of_readItems ih,
      exists_spells_of_readMembers ih⟩

/-! ### Numerals of too many digits -/

/-- Characters hold a numeral with a number of digits, which are too many. -/
def HasLongNumeral (chars : List Char) (count : Nat) : Prop :=
  ∃ numeral digits, SpellsDigits numeral digits ∧ digits.length = count ∧
    Number.digitLimit < count ∧ numeral <:+: chars

/-- A numeral at the end of a text is one of the text. -/
theorem HasLongNumeral.of_suffix {chars rest : List Char} {count : Nat}
    (h : HasLongNumeral rest count) (hrest : rest <:+ chars) : HasLongNumeral chars count := by
  obtain ⟨numeral, digits, hspells, hlength, hlimit, hinfix⟩ := h
  exact ⟨numeral, digits, hspells, hlength, hlimit, hinfix.trans hrest.isInfix⟩

theorem skipBlanks_suffix (chars : List Char) : skipBlanks chars <:+ chars :=
  List.dropWhile_suffix isSeparator

/-- A number is refused for its digits only if it has too many. -/
theorem hasLongNumeral_of_readNumber {chars : List Char} {count : Nat}
    (h : readNumber chars = .error (.digits count)) : HasLongNumeral chars count := by
  have hsign := eq_minusText_append chars
  unfold readNumber at h
  dsimp only at h
  split at h
  · cases h
  · next whole afterWhole hwhole =>
    split at h
    · split at h
      · cases h
      · next hlength =>
        obtain rfl := Stop.digits.inj (Except.error.inj h)
        obtain ⟨spelling, hspells, hbody⟩ := exists_spellsWhole hwhole
        refine ⟨spelling, whole, hspells.1, rfl, Nat.lt_of_not_le hlength, ?_⟩
        exact ⟨minusText (minusSign chars).1, afterWhole, by
          rw [List.append_assoc, ← hbody]; exact hsign.symm⟩
    · cases h

/-- A string is not refused for the digits in it. -/
theorem stringUnits_ne_digits {opening count : Nat} {chars : List Char} :
    stringUnits opening chars ≠ .error (.digits count) := by
  intro h
  fun_induction stringUnits opening chars with
  | case1 | case2 | case4 | case5 | case7 | case8 | case9 => cases h
  | case3 _ _ _ _ _ _ _ _ ih | case6 _ _ _ _ _ _ ih | case10 _ _ _ _ _ _ _ ih =>
    rcases bind_eq_error_iff.1 h with h | ⟨_, -, h⟩
    · exact ih h
    · cases h

theorem readString_ne_digits {chars : List Char} {count : Nat} :
    readString chars ≠ .error (.digits count) := by
  intro h
  rcases bind_eq_error_iff.1 h with h | ⟨_, -, h⟩
  · exact stringUnits_ne_digits h
  · cases h

/-- Reading with some fuel stops for too many digits only at a numeral that has them. -/
structure StopsAtNumeral (fuel : Nat) : Prop where
  value : ∀ {chars : List Char} {count : Nat},
    readValue fuel chars = .error (.digits count) → HasLongNumeral chars count
  items : ∀ {chars : List Char} {count : Nat},
    readItems fuel chars = .error (.digits count) → HasLongNumeral chars count
  members : ∀ {chars : List Char} {count : Nat},
    readMembers fuel chars = .error (.digits count) → HasLongNumeral chars count

/-- What follows a value is the end of the text. -/
theorem suffix_of_readValue {fuel : Nat} {chars after : List Char} {document : Json}
    (h : readValue fuel chars = .ok (document, after)) : after <:+ chars := by
  obtain ⟨spelling, -, hchars⟩ := (readsSpelled fuel).value h
  exact ⟨spelling, hchars.symm⟩

/-- A value is refused for digits only if one of its numerals has too many. -/
theorem hasLongNumeral_of_readValue {fuel : Nat} (ih : StopsAtNumeral fuel) {chars : List Char}
    {count : Nat} (h : readValue (fuel + 1) chars = .error (.digits count)) :
    HasLongNumeral chars count := by
  unfold readValue at h
  split at h
  · rcases bind_eq_error_iff.1 h with h | ⟨_, -, h⟩
    · exact absurd h readString_ne_digits
    · cases h
  · next rest =>
    have hsuffix := (skipBlanks_suffix rest).trans (List.suffix_cons '[' rest)
    split at h
    · cases h
    · rcases bind_eq_error_iff.1 h with h | ⟨_, -, h⟩
      · exact (ih.items h).of_suffix hsuffix
      · cases h
  · next rest =>
    have hsuffix := (skipBlanks_suffix rest).trans (List.suffix_cons '\x7b' rest)
    split at h
    · cases h
    · rcases bind_eq_error_iff.1 h with h | ⟨_, -, h⟩
      · exact (ih.members h).of_suffix hsuffix
      · cases h
  · split at h
    · cases h
    · exact hasLongNumeral_of_readNumber h

theorem hasLongNumeral_of_readItems {fuel : Nat} (ih : StopsAtNumeral fuel) {chars : List Char}
    {count : Nat} (h : readItems (fuel + 1) chars = .error (.digits count)) :
    HasLongNumeral chars count := by
  unfold readItems at h
  rcases bind_eq_error_iff.1 h with hitem | ⟨⟨item, rest⟩, hitem, hafterItem⟩
  · exact ih.value hitem
  have hsuffix := (skipBlanks_suffix rest).trans (suffix_of_readValue hitem)
  dsimp only at hafterItem
  split at hafterItem
  · cases hafterItem
  · next next heq =>
    rcases bind_eq_error_iff.1 hafterItem with hothers | ⟨_, -, hpair⟩
    · rw [heq] at hsuffix
      exact (ih.items hothers).of_suffix
        ((skipBlanks_suffix next).trans ((List.suffix_cons ',' next).trans hsuffix))
    · cases hpair
  · cases hafterItem

theorem hasLongNumeral_of_readMembers {fuel : Nat} (ih : StopsAtNumeral fuel) {chars : List Char}
    {count : Nat} (h : readMembers (fuel + 1) chars = .error (.digits count)) :
    HasLongNumeral chars count := by
  unfold readMembers at h
  split at h
  · next rest =>
    rcases bind_eq_error_iff.1 h with hname | ⟨⟨name, tail⟩, hname, hafterName⟩
    · exact absurd hname readString_ne_digits
    obtain ⟨nameChars, -, hrest⟩ := exists_spellsText hname
    have htail : tail <:+ '"' :: rest := ⟨'"' :: (nameChars ++ ['"']), by simp [hrest]⟩
    have hcolonRest := (skipBlanks_suffix tail).trans htail
    dsimp only at hafterName
    split at hafterName
    · next colonRest hcolon =>
      rw [hcolon] at hcolonRest
      have hvalueChars := (skipBlanks_suffix colonRest).trans
        ((List.suffix_cons ':' colonRest).trans hcolonRest)
      rcases bind_eq_error_iff.1 hafterName with hvalue | ⟨⟨value, after⟩, hvalue, hafterValue⟩
      · exact (ih.value hvalue).of_suffix hvalueChars
      have hafter := ((skipBlanks_suffix after).trans (suffix_of_readValue hvalue)).trans
        hvalueChars
      dsimp only at hafterValue
      split at hafterValue
      · cases hafterValue
      · next next heq =>
        rcases bind_eq_error_iff.1 hafterValue with hothers | ⟨_, -, hpair⟩
        · rw [heq] at hafter
          exact (ih.members hothers).of_suffix
            ((skipBlanks_suffix next).trans ((List.suffix_cons ',' next).trans hafter))
        · cases hpair
      · cases hafterValue
    · cases hafterName
  · cases h

/-- Reading stops for too many digits only at a numeral that has them. -/
theorem stopsAtNumeral (fuel : Nat) : StopsAtNumeral fuel := by
  induction fuel with
  | zero => exact ⟨nofun, nofun, nofun⟩
  | succ fuel ih =>
    exact ⟨hasLongNumeral_of_readValue ih, hasLongNumeral_of_readItems ih,
      hasLongNumeral_of_readMembers ih⟩

/-! ### Whole texts -/

/-- A text that is read as a document spells it. -/
theorem isText_of_readChars {text : String} {document : Json}
    (h : readChars text.toList = .ok document) : IsText WithinDigits text document := by
  unfold readChars at h
  split at h
  · cases h
  · obtain ⟨⟨value, rest⟩, hvalue, hend⟩ := bind_eq_ok_iff.1 h
    obtain ⟨before, hbefore, htext⟩ := exists_blanks text.toList
    obtain ⟨spelling, hspells, hskip⟩ := (readsSpelled _).value hvalue
    obtain ⟨after, hafter, hrest⟩ := exists_blanks rest
    dsimp only at hend
    split at hend
    · next hnil =>
      obtain rfl := Except.ok.inj hend
      rw [hnil, List.append_nil] at hrest
      rw [hskip, hrest] at htext
      exact ⟨before, spelling, after, hbefore, hspells, hafter, htext⟩
    · cases hend

/-- A text that is refused for digits has a numeral with too many of them. -/
theorem hasLongNumeral_of_readChars {chars : List Char} {count : Nat}
    (h : readChars chars = .error (.digits count)) : HasLongNumeral chars count := by
  unfold readChars at h
  split at h
  · cases h
  · rcases bind_eq_error_iff.1 h with hvalue | ⟨⟨value, rest⟩, -, hend⟩
    · exact ((stopsAtNumeral _).value hvalue).of_suffix (skipBlanks_suffix chars)
    · dsimp only at hend
      split at hend <;> cases hend

/-- The documents that are read are those of the texts whose integers have few enough digits. -/
theorem read_eq_ok_iff {text : String} {document : Json} :
    read text = .ok document ↔ IsText WithinDigits text document := by
  rw [read, mapError_eq_ok_iff]
  constructor
  · exact isText_of_readChars
  · intro htext
    rcases yields_readChars htext with hread | ⟨count, hadmits, hlimit, -⟩
    · exact hread
    · exact absurd hlimit (Nat.not_lt.2 hadmits)

/-- A text that is read is JSON. -/
theorem isWellFormed_of_read {text : String} {document : Json} (h : read text = .ok document) :
    IsWellFormed text := by
  obtain ⟨before, chars, after, hbefore, hspells, hafter, htext⟩ := read_eq_ok_iff.1 h
  exact ⟨document, before, chars, after, hbefore, hspells.imp fun _ _ ↦ trivial, hafter, htext⟩

/-- A text that is refused as malformed is no JSON text. -/
theorem not_isWellFormed_of_malformed {text : String} {error : SyntaxError}
    (h : read text = .error (.malformed error)) : ¬IsWellFormed text := by
  rintro ⟨document, htext⟩
  obtain ⟨stop, hstop, herror⟩ := mapError_eq_error_iff.1 h
  rcases yields_readChars htext with hread | ⟨count, -, -, hread⟩
  · rw [hread] at hstop
    cases hstop
  · rw [hread] at hstop
    obtain rfl := Except.error.inj hstop
    cases herror

/-- What is no JSON text is refused as malformed, unless a numeral of too many digits comes first.
-/
theorem malformed_of_not_isWellFormed {text : String} (h : ¬IsWellFormed text) :
    (∃ error, read text = .error (.malformed error)) ∨
      ∃ count, HasLongNumeral text.toList count ∧
        read text = .error (.tooManyDigits (.reading count)) := by
  cases hread : readChars text.toList with
  | ok document =>
    exact absurd (isWellFormed_of_read (mapError_eq_ok_iff.2 hread)) h
  | error stop =>
    cases stop with
    | fault fault remaining => exact .inl ⟨_, by rw [read, hread]; rfl⟩
    | digits count =>
      exact .inr ⟨count, hasLongNumeral_of_readChars hread, by rw [read, hread]; rfl⟩

end SpanBridge.Json
