import SpanBridge.Proofs.Mapping

/-!
# Keys with forms

Two keys of a document are alike when they have the same form. Of writes one after another each form
is kept once, where it first came (`forms_insertAll`), and under a key stands what was written last
under its form (`find?_insertAll`). Both go by the last write, as the writes are a fold. Texts are
their own forms, so a mapping under texts has the texts themselves in this order
(`Mapping.keys_insertAllAlike`).
-/

set_option autoImplicit false
set_option relaxedAutoImplicit false

namespace SpanBridge

/-! ### Items without repeats -/

section Repeats

variable {α : Type} [DecidableEq α]

/-- One more item counts unless it came before. -/
theorem eraseDups_concat (items : List α) (item : α) :
    (items ++ [item]).eraseDups =
      if item ∈ items then items.eraseDups else items.eraseDups ++ [item] := by
  rw [List.eraseDups_append]
  by_cases hitem : item ∈ items <;> simp [List.removeAll, hitem, List.eraseDups_cons]

theorem nodup_eraseDups (items : List α) : items.eraseDups.Nodup := by
  induction items using List.reverseRecOn with
  | nil => exact .nil
  | append_singleton items item ih =>
    rw [eraseDups_concat]
    split
    · exact ih
    · next hitem =>
      rw [← List.concat_eq_append]
      exact ih.concat fun hmem ↦ hitem (List.mem_eraseDups.1 hmem)

/-- Filtering and taking away repetitions may be done in either order. -/
theorem eraseDups_filter (p : α → Bool) (items : List α) :
    (items.filter p).eraseDups = items.eraseDups.filter p := by
  induction items using List.reverseRecOn with
  | nil => rfl
  | append_singleton items item ih =>
    rw [List.filter_append, eraseDups_concat]
    by_cases hitem : p item = true
    · rw [List.filter_cons_of_pos hitem, List.filter_nil, eraseDups_concat, ih]
      simp only [List.mem_filter, hitem, and_true]
      split <;> simp [hitem]
    · rw [List.filter_cons_of_neg hitem, List.filter_nil, List.append_nil, ih]
      split <;> simp [hitem]

/-- Of two lists one after the other, the items of the first come first and then the new ones of the
second. -/
theorem eraseDups_append_filter (items others : List α) :
    (items ++ others).eraseDups =
      items.eraseDups ++ others.eraseDups.filter fun other ↦ decide (other ∉ items.eraseDups) := by
  rw [List.eraseDups_append, List.removeAll, eraseDups_filter]
  congr 1
  refine List.filter_congr fun other _ ↦ ?_
  simp

end Repeats

/-! ### Writing under keys with forms -/

namespace Entries

variable {κ φ β : Type} {same : κ → κ → Prop} [DecidableRel same] [DecidableEq φ]

/-- The forms of the keys of entries, in their order. -/
def forms (form : κ → φ) (entries : List (κ × β)) : List φ := entries.map fun entry ↦ form entry.1

/-- The last write comes after all the others. -/
theorem insertAll_concat (writes : List (κ × β)) (write : κ × β) (entries : List (κ × β)) :
    insertAll same (writes ++ [write]) entries =
      insert same write.1 write.2 (insertAll same writes entries) := by
  rw [insertAll, List.foldl_append]
  rfl

variable {form : κ → φ} (hsame : ∀ first second, same first second ↔ form first = form second)

include hsame

/-- An insertion adds the form of its key at the end, unless it is there already. -/
theorem forms_insert (key : κ) (value : β) (entries : List (κ × β)) :
    forms form (insert same key value entries) =
      if form key ∈ forms form entries then forms form entries
      else forms form entries ++ [form key] := by
  induction entries with
  | nil => rfl
  | cons entry rest ih =>
    rw [insert]
    by_cases hkey : form entry.1 = form key
    · rw [if_pos ((hsame _ _).2 hkey)]
      simp [forms, hkey]
    · rw [if_neg fun h ↦ hkey ((hsame _ _).1 h)]
      have hmem : form key ∈ forms form (entry :: rest) ↔ form key ∈ forms form rest :=
        List.mem_cons.trans (or_iff_right (Ne.symm hkey))
      rw [if_congr hmem rfl rfl]
      refine (congrArg (form entry.1 :: ·) ih).trans ?_
      exact apply_ite (form entry.1 :: ·) _ _ _

/-- Each form of what was written is there once, in the order in which the forms first came. -/
theorem forms_insertAll (writes : List (κ × β)) :
    forms form (insertAll same writes []) = (forms form writes).eraseDups := by
  induction writes using List.reverseRecOn with
  | nil => rfl
  | append_singleton writes write ih =>
    have hconcat : forms form (writes ++ [write]) = forms form writes ++ [form write.1] :=
      List.map_append
    rw [insertAll_concat, forms_insert hsame, ih, hconcat, eraseDups_concat]
    simp only [List.mem_eraseDups]

/-- What is found after an insertion: the new value under its key, the old ones elsewhere. -/
theorem find?_insert (key other : κ) (value : β) (entries : List (κ × β)) :
    find? same other (insert same key value entries) =
      if same key other then some value else find? same other entries := by
  simp only [find?, hsame]
  induction entries with
  | nil => simp [insert]
  | cons entry rest ih =>
    rw [insert]
    by_cases hkey : form entry.1 = form key
    · rw [if_pos ((hsame _ _).2 hkey), List.find?_cons, List.find?_cons, hkey]
      by_cases hother : form key = form other <;> simp [hother]
    · rw [if_neg fun h ↦ hkey ((hsame _ _).1 h), List.find?_cons, List.find?_cons]
      by_cases hother : form entry.1 = form other
      · have hne : form key ≠ form other := fun h ↦ hkey (hother.trans h.symm)
        simp [hother, hne]
      · simpa [hother] using ih

/-- Under a key stands what was written last. -/
theorem find?_insertAll (key : κ) (writes : List (κ × β)) :
    find? same key (insertAll same writes []) = find? same key writes.reverse := by
  induction writes using List.reverseRecOn with
  | nil => rfl
  | append_singleton writes write ih =>
    rw [insertAll_concat, find?_insert hsame, ih, List.reverse_concat, find?, find?,
      List.find?_cons]
    by_cases hkey : same write.1 key <;> simp [hkey]

end Entries

/-! ### Attributes of a document -/

/-- Keys are written alike exactly when they have one form. -/
theorem Value.alike_iff (first second : Value) :
    Value.Alike first second ↔ first.keyForm = second.keyForm := .rfl

namespace Mapping

theorem entries_insertAllAlike (mapping : Mapping) (writes : List (Value × Value)) :
    (mapping.insertAllAlike writes).entries =
      Entries.insertAll Value.Alike writes mapping.entries := by
  induction writes generalizing mapping with
  | nil => rfl
  | cons write writes ih => exact ih _

/-- The forms of the keys of a mapping, in their order. -/
def keyForms (mapping : Mapping) : List Value := Entries.forms Value.keyForm mapping.entries

theorem keyForms_insertAllAlike (writes : List (Value × Value)) :
    (empty.insertAllAlike writes).keyForms = (Entries.forms Value.keyForm writes).eraseDups := by
  rw [keyForms, entries_insertAllAlike]
  exact Entries.forms_insertAll Value.alike_iff writes

/-- Under a text stands what was written last. -/
theorem find?_str_insertAllAlike (writes : List (Value × Value)) (key : String) :
    (empty.insertAllAlike writes).find? (.str key) =
      Entries.find? Value.Alike (.str key) writes.reverse := by
  have hsame : ∀ value, Value.Same value (.str key) ↔ Value.Alike value (.str key) := fun value ↦
    (Value.plain_str key value).trans (Value.alike_str_iff value key).symm
  rw [← Entries.find?_insertAll Value.alike_iff, find?, entries_insertAllAlike]
  simp only [Entries.find?, hsame]
  rfl

section Texts

variable {writes : List (Value × Value)} (h : ∀ write ∈ writes, ∃ key, write.1 = .str key)

include h

theorem forms_of_texts : Entries.forms Value.keyForm writes = writes.map Prod.fst := by
  refine List.map_congr_left fun write hwrite ↦ ?_
  obtain ⟨key, hkey⟩ := h write hwrite
  rw [hkey]
  rfl

/-- Texts are there once, in the order in which they first came. -/
theorem keys_insertAllAlike :
    (empty.insertAllAlike writes).keys = (writes.map Prod.fst).eraseDups := by
  rw [← forms_of_texts h, ← keyForms_insertAllAlike]
  refine (forms_of_texts fun entry hentry ↦ ?_).symm
  -- the form of a key is that of a write, hence a text, and only a text has this form
  have hform : entry.1.keyForm ∈ (empty.insertAllAlike writes).keyForms :=
    List.mem_map_of_mem hentry
  rw [keyForms_insertAllAlike, List.mem_eraseDups, forms_of_texts h] at hform
  obtain ⟨write, hwrite, heq⟩ := List.mem_map.1 hform
  obtain ⟨key, hkey⟩ := h write hwrite
  exact ⟨key, (Value.keyForm_eq_str_iff entry.1 key).1 (heq.symm.trans hkey)⟩

end Texts

end Mapping

end SpanBridge
