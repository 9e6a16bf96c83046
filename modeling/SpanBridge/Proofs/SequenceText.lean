import SpanBridge.Proofs.Number.ReadBack
import SpanBridge.Proofs.ValueText

/-!
# Sequences are read back from their texts

The text of a sequence of truth values, of integers or of double precision numbers is cut at its
commas and read piece by piece (`ReadableType.readItems`). The text of such an item is never empty
and has no comma, and the item is read back from it (`Value.isPiece_of_scalarHasText`). So the
pieces are the texts of the items (`pieces_joined`), and the sequence is read back from its text
(`Value.readItems_attributeText`).
-/

set_option autoImplicit false
set_option relaxedAutoImplicit false

namespace SpanBridge

/-! ### Pieces -/

/-- The pieces of a text between its commas. The empty text has none. -/
def pieces (text : String) : List String :=
  if text = "" then [] else (text.split ',').toList.map (·.copy)

/-- Texts that are not empty and have no comma are the pieces of what they make up. -/
theorem pieces_joined {texts : List String} (hnonempty : ∀ text ∈ texts, text ≠ "")
    (hcomma : ∀ text ∈ texts, ',' ∉ text.toList) : pieces (Attribute.joined texts) = texts := by
  by_cases hempty : texts = []
  · rw [hempty]
    rfl
  · have hjoined : Attribute.joined texts ≠ "" := by
      rw [ne_eq, Attribute.joined_eq_empty_iff, not_or]
      refine ⟨hempty, ?_⟩
      rintro rfl
      exact hnonempty "" (List.mem_singleton_self "") rfl
    have hsplit := String.toList_split_intercalate hcomma
    rw [if_neg hempty] at hsplit
    rw [pieces, if_neg hjoined]
    exact hsplit

/-! ### Items that are read -/

def readBoolean? (text : String) : Option Bool :=
  if text = "true" then some true else if text = "false" then some false else none

/-- The types of the items that are read back. -/
inductive ReadableType where
  | bool
  | int
  | float
  deriving DecidableEq, Repr

namespace ReadableType

/-- The word for the type of such an item. -/
def name : ReadableType → String
  | .bool => "bool"
  | .int => "int"
  | .float => "float"

def read? : ReadableType → String → Option Value
  | .bool, text => (readBoolean? text).map .bool
  | .int, text => (Number.readInteger? text).map .int
  | .float, text => (Number.readDouble? text).map .double

/-- Reads the items of a type from the pieces of a text. -/
def readItems (type : ReadableType) (text : String) : Option (List Value) :=
  (pieces text).mapM type.read?

end ReadableType

namespace Value

theorem comma_not_mem_integerText (number : Int) : ',' ∉ (Number.integerText number).toList :=
  fun h ↦ absurd (Number.mem_integerText h) (by decide)

theorem comma_not_mem_text (number : Double) : ',' ∉ (number.text DoubleFormat.plain).toList :=
  fun h ↦ absurd (Double.isNumeric_or_mem_of_mem_text h) (by decide)

/-- The text of an item is a piece, from which the item is read. -/
structure IsPiece (type : ReadableType) (item : Value) (text : String) : Prop where
  nonempty : text ≠ ""
  comma : ',' ∉ text.toList
  read : type.read? text = some item

theorem isPiece_of_scalarHasText {type : ReadableType} {item : Value} {text : String}
    (h : ScalarHasText item text) (htype : item.typeName = type.name) :
    IsPiece type item text := by
  have hdouble : ∀ number : Double,
      IsPiece .float (.double number) (number.text DoubleFormat.plain) := fun number ↦
    ⟨number.text_ne_empty, comma_not_mem_text number,
      congrArg (Option.map Value.double) (Number.readDouble?_text number)⟩
  cases type with
  | bool =>
    cases h with
    | true => exact ⟨by decide, by decide, by decide⟩
    | false => exact ⟨by decide, by decide, by decide⟩
    | _ => simp [typeName, ReadableType.name] at htype
  | int =>
    cases h with
    | int hlimit =>
      exact ⟨Number.integerText_ne_empty _, comma_not_mem_integerText _,
        congrArg (Option.map Value.int) (Number.readInteger_integerText hlimit)⟩
    | _ => simp [typeName, ReadableType.name] at htype
  | float =>
    cases h with
    | nan => exact hdouble .nan
    | infinity => exact hdouble (.infinite false)
    | negativeInfinity => exact hdouble (.infinite true)
    | finite negative exponent fraction => exact hdouble (.finite negative exponent fraction)
    | _ => simp [typeName, ReadableType.name] at htype

variable {type : ReadableType} {value : Value} {items : List Value}

/-- Items that have texts are read back from the text of their sequence. -/
theorem readItems_of_hasText {text : String} (htext : value.HasText text)
    (hitems : value.items? = some items) (htype : ∀ item ∈ items, item.typeName = type.name) :
    type.readItems text = some items := by
  cases htext with
  | scalar hscalar =>
    rw [items?_of_isScalar hscalar.isScalar] at hitems
    cases hitems
  | @sequence _ texts hsequence _ htexts =>
    obtain rfl := Option.some.inj (hitems.symm.trans hsequence)
    have hpieces : List.Forall₂ (IsPiece type) items texts :=
      ((List.forall₂_and_left _ _).2 ⟨htype, htexts⟩).imp fun _ _ h ↦
        isPiece_of_scalarHasText h.2 h.1
    have hcut : pieces (String.intercalate "," texts) = texts := by
      refine pieces_joined (fun piece hpiece ↦ ?_) fun piece hpiece ↦ ?_
      · obtain ⟨item, -, hitem⟩ := exists_mem_of_forall₂ hpieces hpiece
        exact hitem.nonempty
      · obtain ⟨item, -, hitem⟩ := exists_mem_of_forall₂ hpieces hpiece
        exact hitem.comma
    rw [ReadableType.readItems, hcut, mapM_eq_some_iff]
    exact hpieces.imp fun _ _ hpiece ↦ hpiece.read

/-- A sequence of one type has a text where its integers keep within the limit on digits. -/
theorem hasText_of_withinLimit (hitems : value.items? = some items)
    (htype : ∀ item ∈ items, item.typeName = type.name)
    (hlimit : ∀ number, .int number ∈ items → Number.WithinLimit number) :
    ∃ text, value.HasText text := by
  have htexts : ∀ item ∈ items, ∃ text, ScalarHasText item text := by
    intro item hitem
    have hscalar : item.IsScalar := by
      rw [IsScalar, htype item hitem]
      cases type <;> decide
    refine (exists_scalarHasText_or hscalar).resolve_right ?_
    rintro ⟨number, rfl, hlong⟩
    exact hlong (hlimit number hitem)
  obtain ⟨texts, htexts⟩ := exists_forall₂ htexts
  refine ⟨_, .sequence hitems (fun first hfirst second hsecond ↦ ?_) htexts⟩
  rw [htype first hfirst, htype second hsecond]

/-- A list or a tuple of truth values, of integers within the digit limit or of double precision
numbers has a text, from which it is read back. No other sequence of the type has this text. -/
theorem readItems_attributeText (hitems : value.items? = some items)
    (htype : ∀ item ∈ items, item.typeName = type.name)
    (hlimit : ∀ number, .int number ∈ items → Number.WithinLimit number) :
    ∃ text, value.attributeText = .ok text ∧ type.readItems text = some items ∧
      ∀ (other : Value) (others : List Value), other.items? = some others →
        (∀ item ∈ others, item.typeName = type.name) → other.attributeText = .ok text →
        others = items := by
  obtain ⟨text, htext⟩ := hasText_of_withinLimit hitems htype hlimit
  have hread := readItems_of_hasText htext hitems htype
  refine ⟨text, attributeText_of_hasText htext, hread, ?_⟩
  intro other others hothers htype' hsame
  have hread' := readItems_of_hasText (hasText_of_attributeText hsame) hothers htype'
  exact Option.some.inj (hread'.symm.trans hread)

/-- A negative integer and zero are read back. -/
theorem readItems_attributeText_negativeAndZero :
    (Value.list [.int (-98), .int 0]).attributeText = .ok "-98,0" ∧
      ReadableType.int.readItems "-98,0" = some [.int (-98), .int 0] := by
  have hitems : (Value.list [.int (-98), .int 0]).items? = some [.int (-98), .int 0] := rfl
  have htype : ∀ item ∈ [Value.int (-98), .int 0], item.typeName = ReadableType.int.name := by
    decide
  have hlimit : ∀ number, .int number ∈ [Value.int (-98), .int 0] →
      Number.WithinLimit number := by
    intro number hnumber
    rcases List.mem_pair.1 hnumber with heq | heq
    · rw [Value.int.inj heq]
      decide
    · rw [Value.int.inj heq]
      decide
  obtain ⟨text, htext, hread, -⟩ := readItems_attributeText hitems htype hlimit
  obtain rfl : text = "-98,0" := Except.ok.inj (htext.symm.trans rfl)
  exact ⟨htext, hread⟩

end Value
end SpanBridge
