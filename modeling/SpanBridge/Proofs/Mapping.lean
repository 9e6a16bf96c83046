import SpanBridge.Proofs.Entries
import SpanBridge.Value.Mapping

/-!
# Texts as keys of a mapping

A text is the same key as itself and as nothing else (`Value.plain_str`), so writing under texts
follows `Entries.insertAll_eq`. `Mapping.insertAll` writes several values at once, and so does
`Mapping.insertAllAlike` under keys of a document.
-/

set_option autoImplicit false
set_option relaxedAutoImplicit false

namespace SpanBridge

namespace Value

/-- Only a text has the form of a text. -/
theorem keyForm_eq_str_iff (value : Value) (text : String) :
    keyForm value = .str text ↔ value = .str text := by
  cases value with
  | double number => cases hinteger : number.integer? <;> simp [keyForm, hinteger]
  | _ => simp [keyForm]

/-- Only a text is written like a text. -/
theorem alike_str_iff (value : Value) (text : String) :
    Alike value (.str text) ↔ value = .str text :=
  keyForm_eq_str_iff value text

theorem plain_str (text : String) : Entries.Plain Same (.str text) := by
  intro other
  constructor
  · intro hsame
    exact (alike_str_iff other text).1 hsame.alike
  · rintro rfl
    exact ⟨Alike.refl _, rfl⟩

end Value

namespace Mapping

@[ext] theorem ext {first second : Mapping} (h : first.entries = second.entries) :
    first = second := by
  cases first
  cases second
  simpa using h

/-- Gives keys values one after another. -/
def insertAll (mapping : Mapping) : List (Value × Value) → Mapping
  | [] => mapping
  | write :: writes => (mapping.insert write.1 write.2).insertAll writes

/-- Gives keys of a document values one after another. -/
def insertAllAlike (mapping : Mapping) : List (Value × Value) → Mapping
  | [] => mapping
  | write :: writes => (mapping.insertAlike write.1 write.2).insertAllAlike writes

theorem entries_insertAll (mapping : Mapping) (writes : List (Value × Value)) :
    (mapping.insertAll writes).entries = Entries.insertAll Value.Same writes mapping.entries := by
  induction writes generalizing mapping with
  | nil => rfl
  | cons write writes ih => exact ih _

theorem insertAll_append (mapping : Mapping) (first second : List (Value × Value)) :
    mapping.insertAll (first ++ second) = (mapping.insertAll first).insertAll second := by
  induction first generalizing mapping with
  | nil => rfl
  | cons write writes ih => exact ih _

/-- A mapping contains a text exactly when it is one of the keys. -/
theorem contains_str_iff (mapping : Mapping) (text : String) :
    mapping.contains (.str text) = true ↔ .str text ∈ mapping.keys := by
  have hsame : ∀ entry : Value × Value,
      Value.Same entry.1 (.str text) ↔ entry.1 = .str text := fun entry ↦
    Value.plain_str text entry.1
  simp only [contains, find?, Entries.find?, keys, Option.isSome_map, List.find?_isSome, hsame,
    decide_eq_true_eq, List.mem_map]

/-- A mapping without a key is changed by a write under another key in no way that shows at the
first one. -/
theorem contains_str_insert_of_ne (mapping : Mapping) {key text : String} (value : Value)
    (hne : key ≠ text) :
    (mapping.insert (.str key) value).contains (.str text) = mapping.contains (.str text) := by
  have hother : Value.str text ≠ .str key := fun h ↦ hne (Value.str.inj h).symm
  rw [contains, find?, insert, Entries.find?_insert_of_plain value (Value.plain_str key)
    (Value.plain_str text), if_neg hother]
  rfl

end Mapping
end SpanBridge
