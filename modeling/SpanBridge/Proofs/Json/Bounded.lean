import SpanBridge.Json.Encode
import SpanBridge.Json.Reader
import SpanBridge.Proofs.Entries
import SpanBridge.Proofs.Number.DigitLimit
import SpanBridge.Proofs.Outcome

/-!
# Documents whose integers can be written

Every integer of a document that was read is within the digit limit (`isBounded_of_read`), since
longer numerals are refused. Such a document is the document of its own value
(`ofValue_toValue`): nothing that was read is lost or refused when it is written again.
-/

set_option autoImplicit false
set_option relaxedAutoImplicit false

namespace SpanBridge.Json

/-- All integers of a document are within the digit limit. -/
inductive IsBounded : Json → Prop where
  | null : IsBounded .null
  | bool (truth : Bool) : IsBounded (.bool truth)
  | int {number : Int} (h : Number.WithinLimit number) : IsBounded (.int number)
  | double (number : Double) : IsBounded (.double number)
  | str (text : String) : IsBounded (.str text)
  | arr {items : List Json} (h : ∀ item ∈ items, IsBounded item) : IsBounded (.arr items)
  | obj {members : List (String × Json)} (h : ∀ member ∈ members, IsBounded member.2) :
    IsBounded (.obj members)

/-- The members of a bounded object are bounded. -/
theorem IsBounded.of_lookup {members : List (String × Json)} {name : String} {payload : Json}
    (h : IsBounded (.obj members)) (hlookup : members.lookup name = some payload) :
    payload.IsBounded := by
  cases h with
  | obj hmembers => exact hmembers (name, payload) (Entries.mem_of_lookup hlookup)

/-! ### Reading -/

theorem leadingDigits_lt (chars : List Char) : ∀ digit ∈ (leadingDigits chars).1, digit < 10 := by
  fun_induction leadingDigits chars with
  | case1 => simp
  | case2 c rest digit hdigit digits after heq ih =>
    rw [heq] at ih
    simpa using ⟨Number.asciiDigit_lt hdigit, ih⟩
  | case3 => simp

/-- What is read before a point are digits below ten. -/
theorem wholePart?_lt {chars after : List Char} {whole : List Nat}
    (h : wholePart? chars = some (whole, after)) : ∀ digit ∈ whole, digit < 10 := by
  have hlt := leadingDigits_lt chars
  unfold wholePart? at h
  split at h
  · cases h
  · obtain ⟨rfl, -⟩ := Prod.mk.inj (Option.some.inj h)
    simp
  · next digits rest _ _ heq =>
    obtain ⟨rfl, -⟩ := Prod.mk.inj (Option.some.inj h)
    rwa [heq] at hlt

theorem isBounded_of_readNumber {chars after : List Char} {document : Json}
    (h : readNumber chars = .ok (document, after)) : document.IsBounded := by
  unfold readNumber at h
  dsimp only at h
  split at h
  · cases h
  · next whole afterWhole hwhole =>
    split at h
    · split at h
      · next hlength =>
        obtain ⟨rfl, -⟩ := Prod.mk.inj (Except.ok.inj h)
        exact .int (Number.withinLimit_signed_ofDigits _ (wholePart?_lt hwhole) hlength)
      · cases h
    · obtain ⟨rfl, -⟩ := Prod.mk.inj (Except.ok.inj h)
      exact .double _

theorem isBounded_of_readWord? {chars after : List Char} {document : Json}
    (h : readWord? chars = some (document, after)) : document.IsBounded := by
  obtain ⟨⟨word, value⟩, hword, hafter⟩ := List.exists_of_findSome?_eq_some h
  obtain ⟨rest, -, hpair⟩ := Option.map_eq_some_iff.1 hafter
  obtain ⟨rfl, rfl⟩ := Prod.mk.inj hpair
  simp only [words, List.mem_cons, Prod.mk.injEq, List.not_mem_nil, or_false] at hword
  rcases hword with ⟨-, rfl⟩ | ⟨-, rfl⟩ | ⟨-, rfl⟩ | ⟨-, rfl⟩ | ⟨-, rfl⟩ | ⟨-, rfl⟩
  · exact .null
  · exact .bool _
  · exact .bool _
  · exact .double _
  · exact .double _
  · exact .double _

/-- Whatever is read with some fuel has bounded integers only. -/
structure ReadsBounded (fuel : Nat) : Prop where
  value : ∀ {chars after : List Char} {document : Json},
    readValue fuel chars = .ok (document, after) → document.IsBounded
  items : ∀ {chars after : List Char} {items : List Json},
    readItems fuel chars = .ok (items, after) → ∀ item ∈ items, item.IsBounded
  members : ∀ {chars after : List Char} {members : List (String × Json)},
    readMembers fuel chars = .ok (members, after) → ∀ member ∈ members, member.2.IsBounded

theorem isBounded_of_readValue_succ {fuel : Nat} (ih : ReadsBounded fuel)
    {chars after : List Char} {document : Json}
    (h : readValue (fuel + 1) chars = .ok (document, after)) : document.IsBounded := by
  unfold readValue at h
  split at h
  · obtain ⟨⟨text, rest⟩, -, hpair⟩ := bind_eq_ok_iff.1 h
    obtain ⟨rfl, -⟩ := Prod.mk.inj (Except.ok.inj hpair)
    exact .str _
  · split at h
    · obtain ⟨rfl, -⟩ := Prod.mk.inj (Except.ok.inj h)
      exact .arr (by simp)
    · obtain ⟨⟨items, rest⟩, hitems, hpair⟩ := bind_eq_ok_iff.1 h
      obtain ⟨rfl, -⟩ := Prod.mk.inj (Except.ok.inj hpair)
      exact .arr (ih.items hitems)
  · split at h
    · obtain ⟨rfl, -⟩ := Prod.mk.inj (Except.ok.inj h)
      exact .obj (by simp)
    · obtain ⟨⟨members, rest⟩, hmembers, hpair⟩ := bind_eq_ok_iff.1 h
      obtain ⟨rfl, -⟩ := Prod.mk.inj (Except.ok.inj hpair)
      exact .obj (Entries.forall_values_insertAll (ih.members hmembers) (by simp))
  · split at h
    · next hword =>
      obtain ⟨rfl, rfl⟩ := Prod.mk.inj (Except.ok.inj h)
      exact isBounded_of_readWord? hword
    · exact isBounded_of_readNumber h

theorem isBounded_of_readItems_succ {fuel : Nat} (ih : ReadsBounded fuel)
    {chars after : List Char} {items : List Json}
    (h : readItems (fuel + 1) chars = .ok (items, after)) : ∀ item ∈ items, item.IsBounded := by
  unfold readItems at h
  obtain ⟨⟨item, rest⟩, hitem, h⟩ := bind_eq_ok_iff.1 h
  have hfirst := ih.value hitem
  dsimp only at h
  split at h
  · obtain ⟨rfl, -⟩ := Prod.mk.inj (Except.ok.inj h)
    simpa using hfirst
  · obtain ⟨⟨others, rest⟩, hothers, hpair⟩ := bind_eq_ok_iff.1 h
    obtain ⟨rfl, -⟩ := Prod.mk.inj (Except.ok.inj hpair)
    exact List.forall_mem_cons.2 ⟨hfirst, ih.items hothers⟩
  · cases h

theorem isBounded_of_readMembers_succ {fuel : Nat} (ih : ReadsBounded fuel)
    {chars after : List Char} {members : List (String × Json)}
    (h : readMembers (fuel + 1) chars = .ok (members, after)) :
    ∀ member ∈ members, member.2.IsBounded := by
  unfold readMembers at h
  split at h
  · obtain ⟨⟨name, rest⟩, -, h⟩ := bind_eq_ok_iff.1 h
    dsimp only at h
    split at h
    · obtain ⟨⟨value, rest⟩, hvalue, h⟩ := bind_eq_ok_iff.1 h
      have hfirst := ih.value hvalue
      dsimp only at h
      split at h
      · obtain ⟨rfl, -⟩ := Prod.mk.inj (Except.ok.inj h)
        simpa using hfirst
      · obtain ⟨⟨others, rest⟩, hothers, hpair⟩ := bind_eq_ok_iff.1 h
        obtain ⟨rfl, -⟩ := Prod.mk.inj (Except.ok.inj hpair)
        exact List.forall_mem_cons.2 ⟨hfirst, ih.members hothers⟩
      · cases h
    · cases h
  · cases h

/-- Whatever is read is bounded. -/
theorem readsBounded (fuel : Nat) : ReadsBounded fuel := by
  induction fuel with
  | zero => exact ⟨nofun, nofun, nofun⟩
  | succ fuel ih =>
    exact ⟨isBounded_of_readValue_succ ih, isBounded_of_readItems_succ ih,
      isBounded_of_readMembers_succ ih⟩

/-- The integers of a document that was read are within the digit limit. -/
theorem isBounded_of_read {text : String} {document : Json} (h : read text = .ok document) :
    document.IsBounded := by
  have hchars := mapError_eq_ok_iff.1 h
  unfold readChars at hchars
  split at hchars
  · cases hchars
  · obtain ⟨⟨value, rest⟩, hvalue, hend⟩ := bind_eq_ok_iff.1 hchars
    dsimp only at hend
    split at hend
    · obtain rfl := Except.ok.inj hend
      exact (readsBounded _).value hvalue
    · cases hend

/-! ### Writing -/

/-- Items that are the documents of their values are so as a list. -/
theorem ofItems_itemValues {items : List Json}
    (h : ∀ item ∈ items, ofValue item.toValue = .ok item) :
    ofItems (itemValues items) = .ok items := by
  induction items with
  | nil => rfl
  | cons item items ih =>
    rw [itemValues, ofItems, h item List.mem_cons_self, ok_bind,
      ih fun other hother ↦ h other (List.mem_cons_of_mem _ hother)]
    rfl

/-- Members that are the documents of their values are so as a list. -/
theorem ofEntries_memberValues {members : List (String × Json)}
    (h : ∀ member ∈ members, ofValue member.2.toValue = .ok member.2) :
    ofEntries (memberValues members) = .ok members := by
  induction members with
  | nil => rfl
  | cons member members ih =>
    rw [memberValues, ofEntries, nameOfKey, ok_bind, h member List.mem_cons_self, ok_bind,
      ih fun other hother ↦ h other (List.mem_cons_of_mem _ hother)]
    rfl

theorem ofInteger_eq_ok {number : Int} (h : Number.WithinLimit number) :
    ofInteger number = .ok (.int number) := by
  rw [ofInteger, Number.writeInteger_eq_ok h]
  rfl

/-- A bounded document is the document of its own value. -/
theorem ofValue_toValue {document : Json} (h : document.IsBounded) :
    ofValue document.toValue = .ok document := by
  induction h with
  | null => rfl
  | bool => rfl
  | int hlimit => exact ofInteger_eq_ok hlimit
  | double => rfl
  | str => rfl
  | arr _ ih =>
    rw [toValue, ofValue, ofItems_itemValues ih]
    rfl
  | obj _ ih =>
    rw [toValue, ofValue, ofEntries_memberValues ih]
    rfl

end SpanBridge.Json
