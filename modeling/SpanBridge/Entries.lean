/-!
# Ordered entries

A list of keys and values in the order in which the keys first came. `Entries.insert` gives a key a
value: a key that is already there keeps its place, a new one goes to the end. Which keys are the
same is a parameter. `Entries.Distinct.insert` says that no key comes to stand twice.
-/

set_option autoImplicit false
set_option relaxedAutoImplicit false

namespace SpanBridge.Entries

variable {κ β : Type} (same : κ → κ → Prop) [DecidableRel same]

/-- Gives a key a value. A key already there keeps its place and its first spelling. -/
def insert (key : κ) (value : β) : List (κ × β) → List (κ × β)
  | [] => [(key, value)]
  | (k, v) :: rest => if same k key then (k, value) :: rest else (k, v) :: insert key value rest

def find? (key : κ) (entries : List (κ × β)) : Option β :=
  (entries.find? fun entry ↦ same entry.1 key).map (·.2)

/-- Entries given one after another, a later value replacing an earlier one. -/
def ofList (entries : List (κ × β)) : List (κ × β) :=
  entries.foldl (fun sofar entry ↦ insert same entry.1 entry.2 sofar) []

/-- No two entries have the same key. -/
def Distinct (entries : List (κ × β)) : Prop :=
  entries.Pairwise fun first second ↦ ¬same first.1 second.1

variable {same}

theorem exists_key_of_mem_insert {key : κ} {value : β} {entries : List (κ × β)} {entry : κ × β}
    (h : entry ∈ insert same key value entries) :
    entry.1 = key ∨ ∃ old ∈ entries, old.1 = entry.1 := by
  induction entries with
  | nil => exact .inl (by simp_all [insert])
  | cons first rest ih =>
    rw [insert] at h
    split at h
    · rcases List.mem_cons.1 h with rfl | h
      · exact .inr ⟨first, by simp, rfl⟩
      · exact .inr ⟨entry, by simp [h], rfl⟩
    · rcases List.mem_cons.1 h with rfl | h
      · exact .inr ⟨first, by simp, rfl⟩
      · rcases ih h with h | ⟨old, mem, h⟩
        · exact .inl h
        · exact .inr ⟨old, by simp [mem], h⟩

omit [DecidableRel same] in
/-- Inserting by a coarser sameness keeps the keys apart. -/
theorem Distinct.insert_of_imp {alike : κ → κ → Prop} [DecidableRel alike]
    (coarser : ∀ {first second : κ}, same first second → alike first second) {key : κ} {value : β}
    {entries : List (κ × β)} (h : Distinct same entries) :
    Distinct same (insert alike key value entries) := by
  induction entries with
  | nil => simp [Distinct, Entries.insert]
  | cons first rest ih =>
    obtain ⟨apart, restApart⟩ := List.pairwise_cons.1 h
    rw [Entries.insert]
    split
    · exact List.pairwise_cons.2 ⟨apart, restApart⟩
    · next differs =>
      refine List.pairwise_cons.2 ⟨fun entry mem ↦ ?_, ih restApart⟩
      rcases exists_key_of_mem_insert mem with h | ⟨old, mem, h⟩
      · rw [h]
        exact fun isSame ↦ differs (coarser isSame)
      · exact h ▸ apart old mem

theorem Distinct.insert {key : κ} {value : β} {entries : List (κ × β)}
    (h : Distinct same entries) : Distinct same (insert same key value entries) :=
  h.insert_of_imp id

theorem Distinct.ofList (entries : List (κ × β)) : Distinct same (ofList same entries) := by
  have run : ∀ (entries sofar : List (κ × β)), Distinct same sofar →
      Distinct same (entries.foldl
        (fun sofar entry ↦ Entries.insert same entry.1 entry.2 sofar) sofar) := by
    intro entries
    induction entries with
    | nil => exact fun _ h ↦ h
    | cons entry rest ih => exact fun _ h ↦ ih _ h.insert
  exact run entries [] (by simp [Distinct])

end SpanBridge.Entries
