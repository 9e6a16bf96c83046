import SpanBridge.Proofs.Json.Numeral
import SpanBridge.Proofs.Json.Quotation

/-!
# JSON texts are read

Whatever the grammar spells is read as what it spells (`yields_of_spells`), with as much fuel as
there are characters, unless reading stops at an integer of too many digits. So a JSON text is never
refused as malformed (`yields_readChars`), and one without such integers is read.
-/

set_option autoImplicit false
set_option relaxedAutoImplicit false

namespace SpanBridge.Json

variable {admits : Nat → Prop}

/-- Characters that may follow a value. -/
def Follows (rest : List Char) : Prop :=
  ∀ c ∈ rest.head?, isSeparator c = true ∨ c ∈ [',', ']', '\x7d']

theorem follows_cons {c : Char} (h : c ∈ [',', ']', '\x7d']) (rest : List Char) :
    Follows (c :: rest) := fun _ hhead ↦ Option.some.inj hhead ▸ .inr h

theorem follows_nil : Follows [] := nofun

/-- Blanks may stand between a value and what follows it. -/
theorem Follows.blanks_append {blanks rest : List Char} (h : Follows rest)
    (hblanks : IsBlanks blanks) : Follows (blanks ++ rest) := by
  cases blanks with
  | nil => exact h
  | cons c blanks =>
    intro other hother
    exact .inl (hblanks other (by simp_all))

/-- What follows a value does not continue a number. -/
theorem Follows.endsNumber {rest : List Char} (h : Follows rest) : EndsNumber rest := by
  intro c hc
  rcases h c hc with hseparator | hclosing
  · simp only [isSeparator, Bool.or_eq_true, decide_eq_true_eq] at hseparator
    rcases hseparator with ((rfl | rfl) | rfl) | rfl <;> decide
  · simp only [List.mem_cons, List.not_mem_nil, or_false] at hclosing
    rcases hclosing with rfl | rfl | rfl <;> decide

/-! ### Words and numbers -/

/-- A word is read whatever follows it. -/
theorem readWord?_append {word : List Char} {document : Json} (h : (word, document) ∈ words)
    (rest : List Char) : readWord? (word ++ rest) = some (document, rest) := by
  simp only [words, List.mem_cons, Prod.mk.injEq, List.not_mem_nil, or_false] at h
  rcases h with ⟨rfl, rfl⟩ | ⟨rfl, rfl⟩ | ⟨rfl, rfl⟩ | ⟨rfl, rfl⟩ | ⟨rfl, rfl⟩ | ⟨rfl, rfl⟩ <;> rfl

/-- The characters with which a number or a word begins, and no other value. -/
theorem readValue_of_head {fuel : Nat} {c : Char} {chars : List Char}
    (h : c ∉ ['"', '[', '\x7b']) :
    readValue (fuel + 1) (c :: chars) =
      match readWord? (c :: chars) with
      | some (value, after) => .ok (value, after)
      | none => readNumber (c :: chars) := by
  simp only [List.mem_cons, List.not_mem_nil, or_false, not_or] at h
  rw [readValue]
  · rfl
  · exact fun _ heq ↦ h.1 (List.cons.inj heq).1
  · exact fun _ heq ↦ h.2.1 (List.cons.inj heq).1
  · exact fun _ heq ↦ h.2.2 (List.cons.inj heq).1

/-- A word is read as the value that it stands for. -/
theorem readValue_word {fuel : Nat} {word : List Char} {document : Json}
    (h : (word, document) ∈ words) (rest : List Char) :
    readValue (fuel + 1) (word ++ rest) = .ok (document, rest) := by
  have hread := readWord?_append h rest
  have hhead : ∃ c chars, word = c :: chars ∧ c ∉ ['"', '[', '\x7b'] := by
    simp only [words, List.mem_cons, Prod.mk.injEq, List.not_mem_nil, or_false] at h
    rcases h with ⟨rfl, -⟩ | ⟨rfl, -⟩ | ⟨rfl, -⟩ | ⟨rfl, -⟩ | ⟨rfl, -⟩ | ⟨rfl, -⟩ <;>
      exact ⟨_, _, rfl, by decide⟩
  obtain ⟨c, chars, rfl, hc⟩ := hhead
  rw [List.cons_append] at hread ⊢
  rw [readValue_of_head hc, hread]

theorem SpellsNumber.exists_head {chars : List Char} {document : Json}
    (h : SpellsNumber admits chars document) :
    ∃ negative c tail digit, chars = minusText negative ++ c :: tail ∧
      Number.asciiDigit? c = some digit := by
  have hhead : ∀ {wholeChars : List Char} {whole : List Nat}, SpellsWhole wholeChars whole →
      ∃ c tail digit, wholeChars = c :: tail ∧ Number.asciiDigit? c = some digit := by
    rintro _ _ ⟨hdigits, hne, -⟩
    cases hdigits with
    | nil => exact absurd rfl hne
    | cons hdigit => exact ⟨_, _, _, rfl, hdigit⟩
  cases h with
  | int hwhole =>
    obtain ⟨c, tail, digit, rfl, hc⟩ := hhead hwhole
    exact ⟨_, c, tail, digit, rfl, hc⟩
  | double hwhole =>
    obtain ⟨c, tail, digit, rfl, hc⟩ := hhead hwhole
    exact ⟨_, c, _, digit, rfl, hc⟩

/-- A number is not taken for a word: the one word with a sign has no digit after it. -/
theorem readWord?_number {negative : Bool} {c : Char} {digit : Nat}
    (h : Number.asciiDigit? c = some digit) (tail : List Char) :
    readWord? (minusText negative ++ c :: tail) = none := by
  have hne : ∀ {other : Char}, Number.asciiDigit? other = none → other ≠ c :=
    fun hother ↦ (ne_of_asciiDigit h hother).symm
  have hletters : 'n' ≠ c ∧ 't' ≠ c ∧ 'f' ≠ c ∧ 'N' ≠ c ∧ 'I' ≠ c ∧ '-' ≠ c :=
    ⟨hne rfl, hne rfl, hne rfl, hne rfl, hne rfl, hne rfl⟩
  cases negative with
  | true => simp [readWord?, words, minusText, afterWord?, hletters]
  | false => simp [readWord?, words, minusText, afterWord?, hletters]

/-- A number is read as the value that it spells, unless it has too many digits. -/
theorem yields_readValue_number {fuel : Nat} {chars rest : List Char} {document : Json}
    (h : SpellsNumber admits chars document) (hrest : EndsNumber rest) :
    Yields admits (readValue (fuel + 1) (chars ++ rest)) (document, rest) := by
  have hread := yields_readNumber h hrest
  obtain ⟨negative, c, tail, digit, rfl, hc⟩ := h.exists_head
  have hword := @readWord?_number negative c digit hc (tail ++ rest)
  have hdispatch : readValue (fuel + 1) ((minusText negative ++ c :: tail) ++ rest) =
      readNumber ((minusText negative ++ c :: tail) ++ rest) := by
    rw [List.append_assoc, List.cons_append]
    cases negative with
    | true =>
      rw [minusText, if_pos rfl, List.cons_append, List.nil_append] at hword ⊢
      rw [readValue_of_head (by decide), hword]
    | false =>
      have hother : c ∉ ['"', '[', '\x7b'] := by
        simp only [List.mem_cons, List.not_mem_nil, or_false, not_or]
        exact ⟨ne_of_asciiDigit hc rfl, ne_of_asciiDigit hc rfl, ne_of_asciiDigit hc rfl⟩
      rw [minusText, if_neg Bool.false_ne_true, List.nil_append] at hword ⊢
      rw [readValue_of_head hother, hword]
  rwa [hdispatch]

/-! ### Strings, arrays and objects -/

/-- A string between quotes is read as its text. -/
theorem readValue_str {fuel : Nat} {chars : List Char} {text : String} (h : SpellsText chars text)
    (rest : List Char) :
    readValue (fuel + 1) ('"' :: (chars ++ '"' :: rest)) = .ok (.str text, rest) := by
  rw [readValue, readString_append h]
  rfl

theorem readValue_emptyArr {fuel : Nat} {blanks : List Char} (h : IsBlanks blanks)
    (rest : List Char) :
    readValue (fuel + 1) ('[' :: (blanks ++ ']' :: rest)) = .ok (.arr [], rest) := by
  rw [readValue, skipBlanks_append h, skipBlanks_cons (by decide)]
  rfl

theorem readValue_emptyObj {fuel : Nat} {blanks : List Char} (h : IsBlanks blanks)
    (rest : List Char) :
    readValue (fuel + 1) ('\x7b' :: (blanks ++ '\x7d' :: rest)) = .ok (.obj [], rest) := by
  rw [readValue, skipBlanks_append h, skipBlanks_cons (by decide)]
  rfl

theorem skipBlanks_of_startsValue {blanks chars : List Char} (hblanks : IsBlanks blanks)
    (h : StartsValue chars) : skipBlanks (blanks ++ chars) = chars := by
  obtain ⟨c, rest, rfl, hc⟩ := h
  rw [skipBlanks_append hblanks, skipBlanks_cons (not_isSeparator_of_opensValue hc)]

/-- An array that has items is read by reading these. -/
theorem readValue_arr {fuel : Nat} {blanks chars : List Char} (hblanks : IsBlanks blanks)
    (h : StartsValue chars) :
    readValue (fuel + 1) ('[' :: (blanks ++ chars)) =
      (readItems fuel chars >>= fun (items, after) ↦ .ok (.arr items, after)) := by
  rw [readValue, skipBlanks_of_startsValue hblanks h]
  obtain ⟨c, rest, rfl, hc⟩ := h
  split
  · next heq => exact absurd (List.cons.inj heq).1 (ne_of_opensValue hc (by decide))
  · rfl

/-- An object that has members is read by reading these, of which the last of one name counts. -/
theorem readValue_obj {fuel : Nat} {blanks chars : List Char} (hblanks : IsBlanks blanks)
    (h : StartsValue chars) :
    readValue (fuel + 1) ('\x7b' :: (blanks ++ chars)) =
      (readMembers fuel chars >>= fun (members, after) ↦
        .ok (.obj (Entries.ofList (· = ·) members), after)) := by
  rw [readValue, skipBlanks_of_startsValue hblanks h]
  obtain ⟨c, rest, rfl, hc⟩ := h
  split
  · next heq => exact absurd (List.cons.inj heq).1 (ne_of_opensValue hc (by decide))
  · rfl

/-- The last item is read up to the closing bracket. -/
theorem yields_readItems_last {fuel : Nat} {chars before rest : List Char} {item : Json}
    (h : Yields admits (readValue fuel chars) (item, before ++ ']' :: rest))
    (hbefore : IsBlanks before) : Yields admits (readItems (fuel + 1) chars) ([item], rest) := by
  rw [readItems]
  refine h.bind ?_
  dsimp only
  rw [skipBlanks_append hbefore, skipBlanks_cons (by decide)]
  exact .inl rfl

/-- An item with a comma after it is read together with the items that follow. -/
theorem yields_readItems {fuel : Nat} {chars before after next rest : List Char} {item : Json}
    {items : List Json}
    (h : Yields admits (readValue fuel chars) (item, before ++ ',' :: (after ++ next)))
    (hbefore : IsBlanks before) (hafter : IsBlanks after) (hnext : StartsValue next)
    (hitems : Yields admits (readItems fuel next) (items, rest)) :
    Yields admits (readItems (fuel + 1) chars) (item :: items, rest) := by
  rw [readItems]
  refine h.bind ?_
  dsimp only
  rw [skipBlanks_append hbefore, skipBlanks_cons (by decide)]
  show Yields admits (readItems fuel (skipBlanks (after ++ next)) >>= _) _
  rw [skipBlanks_of_startsValue hafter hnext]
  exact hitems.bind (.inl rfl)

/-- The name of a member and the colon after it. -/
theorem readMembers_name {fuel : Nat} {nameChars beforeColon afterColon chars : List Char}
    {name : String} (hname : SpellsText nameChars name) (hbeforeColon : IsBlanks beforeColon)
    (hafterColon : IsBlanks afterColon) (hchars : StartsValue chars) :
    readMembers (fuel + 1)
        ('"' :: (nameChars ++ '"' :: (beforeColon ++ ':' :: (afterColon ++ chars)))) =
      (do
        let (value, rest) ← readValue fuel chars
        match skipBlanks rest with
        | '\x7d' :: after => return ([(name, value)], after)
        | ',' :: rest => do
          let (members, after) ← readMembers fuel (skipBlanks rest)
          return ((name, value) :: members, after)
        | rest => throw (.fault .commaExpected rest.length)) := by
  rw [readMembers, readString_append hname, ok_bind]
  dsimp only
  rw [skipBlanks_append hbeforeColon, skipBlanks_cons (by decide)]
  exact congrArg (fun rest ↦ readValue fuel rest >>= _)
    (skipBlanks_of_startsValue hafterColon hchars)

/-- The last member is read up to the closing brace. -/
theorem yields_readMembers_last {fuel : Nat}
    {nameChars beforeColon afterColon chars before rest : List Char} {name : String}
    {document : Json} (hname : SpellsText nameChars name) (hbeforeColon : IsBlanks beforeColon)
    (hafterColon : IsBlanks afterColon) (hchars : StartsValue chars)
    (h : Yields admits (readValue fuel chars) (document, before ++ '\x7d' :: rest))
    (hbefore : IsBlanks before) :
    Yields admits
      (readMembers (fuel + 1)
        ('"' :: (nameChars ++ '"' :: (beforeColon ++ ':' :: (afterColon ++ chars)))))
      ([(name, document)], rest) := by
  rw [readMembers_name hname hbeforeColon hafterColon hchars]
  refine h.bind ?_
  dsimp only
  rw [skipBlanks_append hbefore, skipBlanks_cons (by decide)]
  exact .inl rfl

/-- A member with a comma after it is read together with the members that follow. -/
theorem yields_readMembers {fuel : Nat}
    {nameChars beforeColon afterColon chars before after next rest : List Char} {name : String}
    {document : Json} {members : List (String × Json)} (hname : SpellsText nameChars name)
    (hbeforeColon : IsBlanks beforeColon) (hafterColon : IsBlanks afterColon)
    (hchars : StartsValue chars)
    (h : Yields admits (readValue fuel chars) (document, before ++ ',' :: (after ++ next)))
    (hbefore : IsBlanks before) (hafter : IsBlanks after) (hnext : StartsValue next)
    (hmembers : Yields admits (readMembers fuel next) (members, rest)) :
    Yields admits
      (readMembers (fuel + 1)
        ('"' :: (nameChars ++ '"' :: (beforeColon ++ ':' :: (afterColon ++ chars)))))
      ((name, document) :: members, rest) := by
  rw [readMembers_name hname hbeforeColon hafterColon hchars]
  refine h.bind ?_
  dsimp only
  rw [skipBlanks_append hbefore, skipBlanks_cons (by decide)]
  show Yields admits (readMembers fuel (skipBlanks (after ++ next)) >>= _) _
  rw [skipBlanks_of_startsValue hafter hnext]
  exact hmembers.bind (.inl rfl)

/-! ### Parts of a text -/

/-- Characters are read as a part of a text, up to what follows them. -/
def IsReadAs (admits : Nat → Prop) (fuel : Nat) (chars rest : List Char) : Part → Prop
  | .value document =>
    Follows rest → Yields admits (readValue fuel (chars ++ rest)) (document, rest)
  | .items items => Yields admits (readItems fuel (chars ++ rest)) (items, rest)
  | .members members => Yields admits (readMembers fuel (chars ++ rest)) (members, rest)

/-- A part of a text is not empty, so that there is fuel for one step. -/
theorem exists_fuel {chars : List Char} {part : Part} {fuel : Nat} (h : Spells admits chars part)
    (hfuel : chars.length ≤ fuel) : ∃ less, fuel = less + 1 := by
  obtain ⟨c, rest, rfl, -⟩ := h.startsValue
  exact Nat.exists_eq_succ_of_ne_zero (Nat.ne_of_gt (Nat.lt_of_lt_of_le (Nat.succ_pos _) hfuel))

/-- What is spelled is read as such with as much fuel as there are characters. -/
theorem isReadAs_of_spells {chars : List Char} {part : Part} (h : Spells admits chars part)
    {fuel : Nat} (hfuel : chars.length ≤ fuel) (rest : List Char) :
    IsReadAs admits fuel chars rest part := by
  -- Every part has at least one character, so there is fuel for a step (`exists_fuel`).
  have hshape := h
  induction h generalizing fuel rest with
  | word h =>
    obtain ⟨fuel, rfl⟩ := exists_fuel hshape hfuel
    exact fun _ ↦ .inl (readValue_word h rest)
  | number h =>
    obtain ⟨fuel, rfl⟩ := exists_fuel hshape hfuel
    exact fun hrest ↦ yields_readValue_number h hrest.endsNumber
  | str h =>
    obtain ⟨fuel, rfl⟩ := exists_fuel hshape hfuel
    intro _
    rw [List.cons_append, List.append_assoc]
    exact .inl (readValue_str h rest)
  | emptyArr hblanks =>
    obtain ⟨fuel, rfl⟩ := exists_fuel hshape hfuel
    intro _
    rw [List.cons_append, List.append_assoc]
    exact .inl (readValue_emptyArr hblanks rest)
  | arr hblanks h ih =>
    obtain ⟨fuel, rfl⟩ := exists_fuel hshape hfuel
    simp only [List.length_cons, List.length_append] at hfuel
    intro _
    rw [List.cons_append, List.append_assoc, readValue_arr hblanks (h.startsValue.append rest)]
    exact Yields.bind (ih (by omega) rest h) (.inl rfl)
  | emptyObj hblanks =>
    obtain ⟨fuel, rfl⟩ := exists_fuel hshape hfuel
    intro _
    rw [List.cons_append, List.append_assoc]
    exact .inl (readValue_emptyObj hblanks rest)
  | obj hblanks h ih =>
    obtain ⟨fuel, rfl⟩ := exists_fuel hshape hfuel
    simp only [List.length_cons, List.length_append] at hfuel
    intro _
    rw [List.cons_append, List.append_assoc, readValue_obj hblanks (h.startsValue.append rest)]
    exact Yields.bind (ih (by omega) rest h) (.inl rfl)
  | @lastItem chars before item h hbefore ih =>
    obtain ⟨fuel, rfl⟩ := exists_fuel hshape hfuel
    simp only [List.length_cons, List.length_append] at hfuel
    have hvalue := @ih fuel (by omega) (before ++ ']' :: rest) h
      ((follows_cons (by decide) rest).blanks_append hbefore)
    simp only [IsReadAs, List.append_assoc, List.cons_append, List.nil_append]
    exact yields_readItems_last hvalue hbefore
  | @item chars before after next item items h hbefore hafter hnext ih ihnext =>
    obtain ⟨fuel, rfl⟩ := exists_fuel hshape hfuel
    simp only [List.length_cons, List.length_append] at hfuel
    have hvalue := @ih fuel (by omega) (before ++ ',' :: (after ++ (next ++ rest))) h
      ((follows_cons (by decide) _).blanks_append hbefore)
    simp only [IsReadAs, List.append_assoc, List.cons_append]
    exact yields_readItems hvalue hbefore hafter (hnext.startsValue.append rest)
      (ihnext (by omega) rest hnext)
  | @lastMember _ _ _ chars before _ document hname hbeforeColon hafterColon h hbefore ih =>
    obtain ⟨fuel, rfl⟩ := exists_fuel hshape hfuel
    simp only [List.length_cons, List.length_append] at hfuel
    have hvalue := @ih fuel (by omega) (before ++ '\x7d' :: rest) h
      ((follows_cons (by decide) rest).blanks_append hbefore)
    simp only [IsReadAs, List.append_assoc, List.cons_append, List.nil_append]
    exact yields_readMembers_last hname hbeforeColon hafterColon (h.startsValue.append _) hvalue
      hbefore
  | @member _ _ _ chars before after next _ document members hname hbeforeColon hafterColon h
      hbefore hafter hnext ih ihnext =>
    obtain ⟨fuel, rfl⟩ := exists_fuel hshape hfuel
    simp only [List.length_cons, List.length_append] at hfuel
    have hvalue := @ih fuel (by omega) (before ++ ',' :: (after ++ (next ++ rest))) h
      ((follows_cons (by decide) _).blanks_append hbefore)
    simp only [IsReadAs, List.append_assoc, List.cons_append]
    exact yields_readMembers hname hbeforeColon hafterColon (h.startsValue.append _) hvalue
      hbefore hafter (hnext.startsValue.append rest) (ihnext (by omega) rest hnext)

/-! ### Whole texts -/

/-- A JSON text is read, unless one of its integers has too many digits. -/
theorem yields_readChars {text : String} {document : Json} (h : IsText admits text document) :
    Yields admits (readChars text.toList) document := by
  obtain ⟨before, chars, after, hbefore, hspells, hafter, htext⟩ := h
  rw [htext]
  have hmark : (before ++ (chars ++ after)).head? ≠ some '\ufeff' := by
    intro hhead
    cases before with
    | nil =>
      obtain ⟨c, rest, rfl, hc⟩ := hspells.startsValue
      exact ne_of_opensValue hc (by decide) (Option.some.inj hhead)
    | cons c before =>
      have hc := hbefore c List.mem_cons_self
      rw [Option.some.inj hhead] at hc
      revert hc
      decide
  rw [readChars, if_neg hmark, skipBlanks_of_startsValue hbefore (hspells.startsValue.append after)]
  have hfollows := follows_nil.blanks_append hafter
  rw [List.append_nil] at hfollows
  have hvalue := isReadAs_of_spells hspells
    (show chars.length ≤ 2 * (before ++ (chars ++ after)).length + 2 by
      simp only [List.length_append]; omega) after hfollows
  refine hvalue.bind ?_
  dsimp only
  rw [skipBlanks_eq_nil hafter]
  exact .inl rfl

end SpanBridge.Json
