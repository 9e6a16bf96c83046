import SpanBridge.Json.Encode
import SpanBridge.Proofs.Number.ReadBack
import SpanBridge.Proofs.Tags

/-!
# The names of keys

Keys become names when they are written, and keys of several types may have one name: the number one
and the text `1`. The names that the passes over the tags give are the names of no other keys
(`eq_of_nameOfKey_eq`). So the tags of a span have names that differ exactly when the attributes of
its record do (`nodup_names_exactTags_iff`).
-/

set_option autoImplicit false
set_option relaxedAutoImplicit false

namespace SpanBridge

/-- The text of a number has no letter o. -/
theorem Double.not_mem_text (number : Double) :
    'o' ∉ (number.text DoubleFormat.plain).toList :=
  fun h ↦ absurd (isNumeric_or_mem_of_mem_text h) (by decide)

/-! ### Names -/

namespace Zipkin

/-- A key that is no text has a name without the letter o. -/
theorem eq_str_of_nameOfKey {key : Value} {name : String} (h : Json.nameOfKey key = .ok name)
    (hletter : 'o' ∈ name.toList) : key = .str name := by
  cases key with
  | str text => rw [Except.ok.inj h]
  | null =>
    obtain rfl := Except.ok.inj h
    exact absurd hletter (by decide)
  | bool truth =>
    obtain rfl := Except.ok.inj h
    revert hletter
    cases truth <;> decide
  | int number =>
    have hwritten := mapError_eq_ok_iff.1 h
    by_cases hlimit : Number.WithinLimit number
    · rw [Number.writeInteger_eq_ok hlimit] at hwritten
      obtain rfl := Except.ok.inj hwritten
      rcases Number.mem_integerText hletter with hsign | hdigit
      · cases hsign
      · cases hdigit
    · rw [Number.writeInteger_eq_error hlimit] at hwritten
      cases hwritten
  | double number =>
    obtain rfl := Except.ok.inj h
    exact absurd hletter number.not_mem_text
  | bytes | list | tuple | map => cases h

/-- No other key has the name of a derived tag. -/
theorem eq_of_nameOfKey_eq {key name : Value} (hname : name ∈ derivedNames)
    (h : Json.nameOfKey key = Json.nameOfKey name) : key = name := by
  have hletter : ∀ name ∈ derivedNames, ∃ text, name = .str text ∧ 'o' ∈ text.toList := by
    simp only [derivedNames, List.forall_mem_cons]
    exact ⟨⟨_, rfl, by decide⟩, ⟨_, rfl, by decide⟩, ⟨_, rfl, by decide⟩, ⟨_, rfl, by decide⟩,
      ⟨_, rfl, by decide⟩, ⟨_, rfl, by decide⟩, ⟨_, rfl, by decide⟩, ⟨_, rfl, by decide⟩,
      List.forall_mem_nil _⟩
  obtain ⟨text, rfl, hmem⟩ := hletter name hname
  exact eq_str_of_nameOfKey h hmem

/-- The tags of a record are written under different names exactly when its attributes are. -/
theorem nodup_names_exactTags_iff (record : SpanRecord) :
    ((exactTags record).map fun tag ↦ Json.nameOfKey tag.1).Nodup ↔
      (record.attributes.keys.map Json.nameOfKey).Nodup := by
  have hattributes : (record.attributes.entries.map fun entry ↦
      (entry.1, ((derivedTags record).lookup entry.1).getD (tagOf entry.2))).map
        (fun tag ↦ Json.nameOfKey tag.1) = record.attributes.keys.map Json.nameOfKey := by
    rw [List.map_map, Mapping.keys, List.map_map]
    rfl
  have hsublist : (((derivedTags record).filter fun tag ↦
      decide (tag.1 ∉ record.attributes.keys)).map fun tag ↦ Json.nameOfKey tag.1).Sublist
        (derivedNames.map Json.nameOfKey) := by
    have hkeys := (keys_derivedTags_sublist record).map Json.nameOfKey
    rw [List.map_map] at hkeys
    exact (List.filter_sublist.map _).trans hkeys
  have hnames : (derivedNames.map Json.nameOfKey).Nodup := by decide
  rw [exactTags, List.map_append, hattributes, List.nodup_append]
  refine ⟨fun h ↦ h.1, fun h ↦ ⟨h, hnames.sublist hsublist, ?_⟩⟩
  rintro _ hattribute name hderived rfl
  obtain ⟨key, hkey, hname⟩ := List.mem_map.1 hattribute
  obtain ⟨tag, htag, heq⟩ := List.mem_map.1 hderived
  obtain ⟨htag, hnew⟩ := List.mem_filter.1 htag
  have hmem := (keys_derivedTags_sublist record).subset (List.mem_map_of_mem htag)
  obtain rfl := eq_of_nameOfKey_eq hmem (hname.trans heq.symm)
  exact of_decide_eq_true hnew hkey

end Zipkin
end SpanBridge
