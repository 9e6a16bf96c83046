import Mathlib.Tactic
import SpanBridge.Entries

/-!
# Writing into ordered entries

`insertAll` gives keys values one after another. A key that is new goes to the end
(`insert_of_new`), so entries whose keys are apart are rebuilt in their order by inserting them one
by one (`insertAll_of_distinct`). A key that is the same as no other key (`Plain`) changes at most
its own value. Entries that receive several plain keys therefore keep their keys in place with the
new values over the old ones, and the keys that were missing follow in the order in which they were
written (`insertAll_eq`). So neither the order of the writes nor that of the entries matters to
anything but the order of the result (`insertAll_perm_of_perm`, `insertAll_perm`).
-/

set_option autoImplicit false
set_option relaxedAutoImplicit false

namespace SpanBridge.Entries

variable {κ β : Type} (same : κ → κ → Prop) [DecidableRel same]

/-- Gives keys values one after another. -/
def insertAll (writes entries : List (κ × β)) : List (κ × β) :=
  writes.foldl (fun sofar write ↦ insert same write.1 write.2 sofar) entries

/-- A key that is the same as itself and as no other key. -/
def Plain (key : κ) : Prop := ∀ other, same other key ↔ other = key

variable {same}

@[simp] theorem insertAll_nil (entries : List (κ × β)) : insertAll same [] entries = entries := rfl

@[simp] theorem insertAll_cons (write : κ × β) (writes entries : List (κ × β)) :
    insertAll same (write :: writes) entries =
      insertAll same writes (insert same write.1 write.2 entries) := rfl

/-! ### New keys -/

theorem insert_of_new {key : κ} {value : β} {entries : List (κ × β)}
    (hnew : ∀ entry ∈ entries, ¬same entry.1 key) :
    insert same key value entries = entries ++ [(key, value)] := by
  induction entries with
  | nil => rfl
  | cons entry rest ih =>
    rw [insert, if_neg (hnew entry (by simp)),
      ih fun other hother ↦ hnew other (List.mem_cons_of_mem _ hother), List.cons_append]

/-- Entries whose keys are apart from each other and from those already there are appended. -/
theorem insertAll_of_distinct {writes entries : List (κ × β)}
    (hdistinct : Distinct same (entries ++ writes)) :
    insertAll same writes entries = entries ++ writes := by
  induction writes generalizing entries with
  | nil => simp
  | cons write writes ih =>
    have hnew : ∀ entry ∈ entries, ¬same entry.1 write.1 := fun entry hentry ↦
      (List.pairwise_append.1 hdistinct).2.2 entry hentry write (by simp)
    rw [insertAll_cons, insert_of_new hnew, ih (by simpa using hdistinct)]
    simp

/-! ### Keys -/

/-- The keys that are there keep their places. -/
theorem keys_prefix_insert (key : κ) (value : β) (entries : List (κ × β)) :
    entries.map Prod.fst <+: (insert same key value entries).map Prod.fst := by
  induction entries with
  | nil => exact List.nil_prefix
  | cons entry rest ih =>
    rw [insert]
    split
    · exact List.prefix_refl _
    · exact (List.prefix_cons_inj entry.1).2 ih

/-- Writing keeps the keys that are there, in their places. -/
theorem keys_prefix_insertAll (writes entries : List (κ × β)) :
    entries.map Prod.fst <+: (insertAll same writes entries).map Prod.fst := by
  induction writes generalizing entries with
  | nil => exact List.prefix_refl _
  | cons write writes ih => exact (keys_prefix_insert write.1 write.2 entries).trans (ih _)

/-! ### What is there afterwards -/

/-- Every value after a write is the written one or was there before. -/
theorem value_of_mem_insert {key : κ} {value : β} {entries : List (κ × β)} {entry : κ × β}
    (h : entry ∈ insert same key value entries) : entry.2 = value ∨ entry ∈ entries := by
  induction entries with
  | nil => exact .inl (by rw [List.mem_singleton.1 h])
  | cons first rest ih =>
    rw [insert] at h
    split at h
    · rcases List.mem_cons.1 h with rfl | h
      · exact .inl rfl
      · exact .inr (List.mem_cons_of_mem _ h)
    · rcases List.mem_cons.1 h with rfl | h
      · exact .inr List.mem_cons_self
      · exact (ih h).imp_right (List.mem_cons_of_mem _)

/-- A property that the values already there and the new ones have holds of all values. -/
theorem forall_values_insertAll {property : β → Prop} {writes entries : List (κ × β)}
    (hwrites : ∀ write ∈ writes, property write.2) (h : ∀ entry ∈ entries, property entry.2) :
    ∀ entry ∈ insertAll same writes entries, property entry.2 := by
  induction writes generalizing entries with
  | nil => exact h
  | cons write writes ih =>
    refine ih (fun other hother ↦ hwrites other (List.mem_cons_of_mem _ hother))
      fun entry hentry ↦ ?_
    rcases value_of_mem_insert hentry with hvalue | hold
    · exact hvalue ▸ hwrites write List.mem_cons_self
    · exact h entry hold

/-! ### Plain keys -/

/-- A write under a plain key leaves the entries under other keys as they are. -/
theorem filter_insert_of_plain {P : κ → Bool} {key : κ} (value : β) (hplain : Plain same key)
    (hkey : P key = false) (entries : List (κ × β)) :
    (insert same key value entries).filter (fun entry ↦ P entry.1) =
      entries.filter fun entry ↦ P entry.1 := by
  induction entries with
  | nil => simp [insert, hkey]
  | cons entry rest ih =>
    rw [insert]
    split
    · next hsame =>
      have hother : P entry.1 = false := (hplain entry.1).1 hsame ▸ hkey
      rw [List.filter_cons_of_neg (by simp [hother]), List.filter_cons_of_neg (by simp [hother])]
    · rw [List.filter_cons, List.filter_cons, ih]

/-- Writes under plain keys leave the entries under all other keys as they are. -/
theorem filter_insertAll_of_plain {P : κ → Bool} {writes : List (κ × β)}
    (hplain : ∀ write ∈ writes, Plain same write.1) (hkeys : ∀ write ∈ writes, P write.1 = false)
    (entries : List (κ × β)) :
    (insertAll same writes entries).filter (fun entry ↦ P entry.1) =
      entries.filter fun entry ↦ P entry.1 := by
  induction writes generalizing entries with
  | nil => rfl
  | cons write writes ih =>
    obtain ⟨hwrite, hwrites⟩ := List.forall_mem_cons.1 hplain
    obtain ⟨hkey, hothers⟩ := List.forall_mem_cons.1 hkeys
    rw [insertAll_cons, ih hwrites hothers, filter_insert_of_plain write.2 hwrite hkey]

/-- Writing what is there already changes nothing. -/
theorem insert_of_mem_entries {key : κ} {value : β} {entries : List (κ × β)}
    (hplain : Plain same key) (hdistinct : Distinct same entries) (h : (key, value) ∈ entries) :
    insert same key value entries = entries := by
  induction entries with
  | nil => cases h
  | cons entry rest ih =>
    obtain ⟨hapart, hrest⟩ := List.pairwise_cons.1 hdistinct
    rw [insert]
    rcases List.mem_cons.1 h with rfl | h
    · rw [if_pos ((hplain key).2 rfl)]
    · have hne : ¬same entry.1 key := hapart (key, value) h
      rw [if_neg hne, ih hrest h]

/-- Writing what is there already changes nothing. -/
theorem insertAll_of_forall_mem {writes entries : List (κ × β)}
    (hplain : ∀ write ∈ writes, Plain same write.1) (hdistinct : Distinct same entries)
    (h : ∀ write ∈ writes, write ∈ entries) : insertAll same writes entries = entries := by
  induction writes with
  | nil => rfl
  | cons write writes ih =>
    obtain ⟨hwrite, hwrites⟩ := List.forall_mem_cons.1 hplain
    obtain ⟨hmem, hmems⟩ := List.forall_mem_cons.1 h
    rw [insertAll_cons, insert_of_mem_entries hwrite hdistinct hmem, ih hwrites hmems]

section Plain

variable [DecidableEq κ]

theorem lookup_cons_eq (key : κ) (entry : κ × β) (entries : List (κ × β)) :
    (entry :: entries).lookup key =
      if key = entry.1 then some entry.2 else entries.lookup key := by
  obtain ⟨first, value⟩ := entry
  by_cases hkey : key = first
  · rw [if_pos hkey, hkey, List.lookup_cons_self]
  · have hfalse : (key == first) = false := by simpa using hkey
    rw [if_neg hkey, List.lookup_cons, hfalse]

theorem mem_of_lookup {key : κ} {value : β} {entries : List (κ × β)}
    (h : entries.lookup key = some value) : (key, value) ∈ entries := by
  obtain ⟨before, after, rfl, -⟩ := List.lookup_eq_some_iff.1 h
  simp

/-- Where no key stands twice, an entry is found under its key. -/
theorem lookup_of_mem {entries : List (κ × β)} (h : (entries.map Prod.fst).Nodup)
    {entry : κ × β} (hentry : entry ∈ entries) : entries.lookup entry.1 = some entry.2 := by
  induction entries with
  | nil => cases hentry
  | cons first rest ih =>
    obtain ⟨hfirst, hrest⟩ := List.nodup_cons.1 h
    rw [lookup_cons_eq]
    rcases List.mem_cons.1 hentry with rfl | hentry
    · rw [if_pos rfl]
    · have hne : entry.1 ≠ first.1 := fun heq ↦ hfirst (heq ▸ List.mem_map_of_mem hentry)
      rw [if_neg hne, ih hrest hentry]

theorem lookup_eq_none_of_not_mem {key : κ} {entries : List (κ × β)}
    (h : key ∉ entries.map Prod.fst) : entries.lookup key = none := by
  refine List.lookup_eq_none_iff.2 fun entry hentry ↦ ?_
  have hne : key ≠ entry.1 := fun heq ↦ h (heq ▸ List.mem_map_of_mem hentry)
  simpa using hne

/-- What is found under a key does not depend on the order of entries with different keys. -/
theorem lookup_of_perm {entries others : List (κ × β)} (h : entries.Perm others)
    (hkeys : (entries.map Prod.fst).Nodup) (key : κ) : entries.lookup key = others.lookup key := by
  have hkeys' : (others.map Prod.fst).Nodup := (h.map Prod.fst).nodup_iff.1 hkeys
  refine Option.ext fun value ↦ ⟨fun hvalue ↦ ?_, fun hvalue ↦ ?_⟩
  · exact lookup_of_mem hkeys' (h.mem_iff.1 (mem_of_lookup hvalue))
  · exact lookup_of_mem hkeys (h.mem_iff.2 (mem_of_lookup hvalue))

theorem lookup_map_value {γ : Type} (f : β → γ) (entries : List (κ × β)) (key : κ) :
    (entries.map fun entry ↦ (entry.1, f entry.2)).lookup key = (entries.lookup key).map f := by
  induction entries with
  | nil => rfl
  | cons entry rest ih =>
    rw [List.map_cons, lookup_cons_eq, lookup_cons_eq, ih]
    split <;> rfl

/-- A plain key is found where it first stands. -/
theorem find?_cons_of_plain {key : κ} (hkey : Plain same key) (entry : κ × β)
    (entries : List (κ × β)) :
    find? same key (entry :: entries) =
      if entry.1 = key then some entry.2 else find? same key entries := by
  rw [find?, find?, List.find?_cons]
  by_cases hfirst : entry.1 = key
  · rw [decide_eq_true ((hkey entry.1).2 hfirst), if_pos hfirst]
    rfl
  · rw [decide_eq_false fun hsame ↦ hfirst ((hkey entry.1).1 hsame), if_neg hfirst]

/-- What is found under a plain key after a write under a plain key. -/
theorem find?_insert_of_plain {key other : κ} (value : β) (hkey : Plain same key)
    (hother : Plain same other) (entries : List (κ × β)) :
    find? same other (insert same key value entries) =
      if other = key then some value else find? same other entries := by
  induction entries with
  | nil => simp only [insert, find?_cons_of_plain hother, eq_comm]
  | cons entry rest ih =>
    rw [insert]
    by_cases hfirst : entry.1 = key
    · rw [if_pos ((hkey entry.1).2 hfirst), find?_cons_of_plain hother, find?_cons_of_plain hother]
      by_cases heq : other = key
      · rw [if_pos (hfirst.trans heq.symm), if_pos heq]
      · have hne : entry.1 ≠ other := fun hsame ↦ heq (hsame.symm.trans hfirst)
        rw [if_neg hne, if_neg heq, if_neg hne]
    · rw [if_neg fun hsame ↦ hfirst ((hkey entry.1).1 hsame), find?_cons_of_plain hother, ih,
        find?_cons_of_plain hother]
      by_cases heq : other = key
      · rw [if_neg fun hsame ↦ hfirst (hsame.trans heq), if_pos heq, if_pos heq]
      · rw [if_neg heq, if_neg heq]

/-- Under a plain key the value that was written is found, and else what was there. -/
theorem find?_insertAll_of_plain {writes : List (κ × β)} {key : κ}
    (hplain : ∀ write ∈ writes, Plain same write.1) (honce : (writes.map Prod.fst).Nodup)
    (hkey : Plain same key) (entries : List (κ × β)) :
    find? same key (insertAll same writes entries) =
      (writes.lookup key).or (find? same key entries) := by
  induction writes generalizing entries with
  | nil => rfl
  | cons write writes ih =>
    obtain ⟨hwrite, hwrites⟩ := List.forall_mem_cons.1 hplain
    obtain ⟨hfresh, honce'⟩ := List.nodup_cons.1 honce
    rw [insertAll_cons, ih hwrites honce', find?_insert_of_plain _ hwrite hkey, lookup_cons_eq]
    split
    · next heq => rw [heq, lookup_eq_none_of_not_mem hfresh]; rfl
    · rfl

/-- A write under a key that is there changes its value and nothing else. -/
theorem insert_of_mem {key : κ} {value : β} {entries : List (κ × β)} (hplain : Plain same key)
    (hdistinct : Distinct same entries) (hmem : key ∈ entries.map Prod.fst) :
    insert same key value entries =
      entries.map fun entry ↦ (entry.1, if entry.1 = key then value else entry.2) := by
  induction entries with
  | nil => cases hmem
  | cons entry rest ih =>
    obtain ⟨hapart, hrest⟩ := List.pairwise_cons.1 hdistinct
    by_cases hkey : entry.1 = key
    · -- the entry is the only one of its key, so the others stay as they are
      have hothers : ∀ other ∈ rest, other.1 ≠ key := by
        intro other hother heq
        refine hapart other hother ?_
        rw [hkey, heq]
        exact (hplain key).2 rfl
      have hstay : rest.map (fun entry ↦ (entry.1, if entry.1 = key then value else entry.2)) =
          rest := by
        refine (List.map_congr_left fun other hother ↦ ?_).trans (List.map_id rest)
        rw [if_neg (hothers other hother), id]
      rw [insert, if_pos ((hplain entry.1).2 hkey), List.map_cons, hstay, if_pos hkey]
    · have hmem' : key ∈ rest.map Prod.fst := by
        rcases List.mem_cons.1 hmem with heq | hmem
        · exact absurd heq.symm hkey
        · exact hmem
      rw [insert, if_neg fun h ↦ hkey ((hplain entry.1).1 h), ih hrest hmem', List.map_cons,
        if_neg hkey]

/-- A write to a key that is not there overrides nothing. -/
theorem map_lookup_cons_of_not_mem {write : κ × β} {writes entries : List (κ × β)}
    (h : write.1 ∉ entries.map Prod.fst) :
    (entries.map fun entry ↦ (entry.1, ((write :: writes).lookup entry.1).getD entry.2)) =
      entries.map fun entry ↦ (entry.1, (writes.lookup entry.1).getD entry.2) := by
  refine List.map_congr_left fun entry hentry ↦ ?_
  have hne : entry.1 ≠ write.1 := fun heq ↦ h (heq ▸ List.mem_map_of_mem hentry)
  rw [lookup_cons_eq, if_neg hne]

/-- Which writes are new does not depend on a key that none of them has. -/
theorem filter_new_append {write : κ × β} {writes entries : List (κ × β)}
    (h : write.1 ∉ writes.map Prod.fst) :
    (writes.filter fun other ↦ decide (other.1 ∉ (entries ++ [write]).map Prod.fst)) =
      writes.filter fun other ↦ decide (other.1 ∉ entries.map Prod.fst) := by
  refine List.filter_congr fun other hother ↦ ?_
  have hne : other.1 ≠ write.1 := fun heq ↦ h (heq ▸ List.mem_map_of_mem hother)
  simp [hne]

/-- Writing plain keys, each at most once, into entries: what is there keeps its place and takes the
new value, and what is missing follows in the order of the writes. -/
theorem insertAll_eq {writes entries : List (κ × β)}
    (hplain : ∀ write ∈ writes, Plain same write.1) (honce : (writes.map Prod.fst).Nodup)
    (hdistinct : Distinct same entries) :
    insertAll same writes entries =
      entries.map (fun entry ↦ (entry.1, (writes.lookup entry.1).getD entry.2)) ++
        writes.filter fun write ↦ decide (write.1 ∉ entries.map Prod.fst) := by
  induction writes generalizing entries with
  | nil => simp
  | cons write writes ih =>
    have hhead : Plain same write.1 := hplain write (by simp)
    obtain ⟨hfresh, honce'⟩ := List.nodup_cons.1 honce
    have hlookup : writes.lookup write.1 = none := lookup_eq_none_of_not_mem hfresh
    have hrest := @ih (insert same write.1 write.2 entries)
      (fun other hother ↦ hplain other (List.mem_cons_of_mem _ hother)) honce' hdistinct.insert
    rw [insertAll_cons, hrest]
    by_cases hmem : write.1 ∈ entries.map Prod.fst
    · have hkeys : (entries.map fun entry ↦
          (entry.1, if entry.1 = write.1 then write.2 else entry.2)).map Prod.fst =
            entries.map Prod.fst := by
        simp [Function.comp_def]
      rw [insert_of_mem hhead hdistinct hmem, hkeys, List.filter_cons_of_neg (by simpa using hmem),
        List.map_map]
      congr 1
      refine List.map_congr_left fun entry _ ↦ ?_
      by_cases hkey : entry.1 = write.1
      · simp [lookup_cons_eq, hkey, hlookup]
      · simp [lookup_cons_eq, hkey]
    · have hnew : ∀ entry ∈ entries, ¬same entry.1 write.1 := fun entry hentry hsame ↦
        hmem ((hhead entry.1).1 hsame ▸ List.mem_map_of_mem hentry)
      rw [insert_of_new hnew, List.filter_cons_of_pos (by simpa using hmem),
        filter_new_append hfresh, List.map_append, map_lookup_cons_of_not_mem hmem,
        List.append_assoc]
      simp [hlookup]

section Once

variable {writes : List (κ × β)} (hplain : ∀ write ∈ writes, Plain same write.1)
  (honce : (writes.map Prod.fst).Nodup)

include hplain honce

/-- What was written is there afterwards. -/
theorem mem_insertAll {entries : List (κ × β)} (hdistinct : Distinct same entries)
    {write : κ × β} (h : write ∈ writes) : write ∈ insertAll same writes entries := by
  rw [insertAll_eq hplain honce hdistinct, List.mem_append]
  by_cases hmem : write.1 ∈ entries.map Prod.fst
  · obtain ⟨entry, hentry, hkey⟩ := List.mem_map.1 hmem
    refine .inl (List.mem_map.2 ⟨entry, hentry, ?_⟩)
    rw [hkey, lookup_of_mem honce h]
    rfl
  · exact .inr (List.mem_filter.2 ⟨h, by simpa using hmem⟩)

/-- The order of the writes matters to nothing but the order of the entries. -/
theorem insertAll_perm_of_perm {writes' : List (κ × β)} (h : writes.Perm writes')
    {entries : List (κ × β)} (hdistinct : Distinct same entries) :
    (insertAll same writes entries).Perm (insertAll same writes' entries) := by
  have hplain' : ∀ write ∈ writes', Plain same write.1 :=
    fun write hwrite ↦ hplain write (h.mem_iff.2 hwrite)
  have honce' : (writes'.map Prod.fst).Nodup := (h.map Prod.fst).nodup_iff.1 honce
  rw [insertAll_eq hplain honce hdistinct, insertAll_eq hplain' honce' hdistinct]
  simp only [lookup_of_perm h honce]
  exact .append_left _ (h.filter _)

/-- The order of the entries matters to nothing but their order afterwards. -/
theorem insertAll_perm {entries entries' : List (κ × β)} (h : entries.Perm entries')
    (hdistinct : Distinct same entries) (hdistinct' : Distinct same entries') :
    (insertAll same writes entries).Perm (insertAll same writes entries') := by
  rw [insertAll_eq hplain honce hdistinct, insertAll_eq hplain honce hdistinct']
  have hkeys : ∀ write : κ × β, write.1 ∈ entries.map Prod.fst ↔ write.1 ∈ entries'.map Prod.fst :=
    fun write ↦ (h.map Prod.fst).mem_iff
  simp only [hkeys]
  exact (h.map _).append_right _

end Once
end Plain

end SpanBridge.Entries
