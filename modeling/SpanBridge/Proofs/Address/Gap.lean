import SpanBridge.Proofs.Address.Spelling

/-!
# The gap of an IPv6 address

A double colon shows as an empty part that is neither first nor last. It is found by the parts on
its two sides (`gap?_sides`, `exists_sides_of_gap?`), and a side without groups is one empty part
(`sideParts`). Parts are read as the groups that stand on the sides, with zero groups for the gap
(`groups?_of_grouped`, `grouped_of_groups?`).
-/

set_option autoImplicit false
set_option relaxedAutoImplicit false

namespace SpanBridge.Ipv6

/-! ### Sides -/

/-- The parts on one side of the gap. A side without groups is one empty part. -/
def sideParts (side : List (List Char)) : List (List Char) := if side = [] then [[]] else side

theorem sideParts_ne_nil (side : List (List Char)) : sideParts side ≠ [] := by
  unfold sideParts
  split
  · simp
  · assumption

/-- A side without parts still counts as one part, the empty one. -/
theorem length_sideParts (side : List (List Char)) :
    (sideParts side).length = max 1 side.length := by
  unfold sideParts
  split
  · next hside => simp [hside]
  · next hside =>
    have := List.length_pos_iff.2 hside
    omega

/-- The empty part that stands for a side without parts adds nothing to its text. -/
theorem intercalate_sideParts (side : List (List Char)) :
    List.intercalate [':'] (sideParts side) = List.intercalate [':'] side := by
  unfold sideParts
  split
  · next hside =>
    rw [hside]
    rfl
  · rfl

theorem mem_sideParts {side : List (List Char)} {part : List Char} (h : part ∈ sideParts side) :
    part = [] ∨ part ∈ side := by
  unfold sideParts at h
  split at h
  · exact .inl (List.mem_singleton.1 h)
  · exact .inr h

/-- A side with an empty part has no other. -/
theorem eq_nil_of_mem_sideParts {side : List (List Char)} (hside : ∀ part ∈ side, part ≠ [])
    (h : [] ∈ sideParts side) : side = [] := by
  unfold sideParts at h
  split at h
  · assumption
  · exact absurd rfl (hside [] h)

/-- Between two sides, the one empty part that is neither first nor last is the gap. -/
theorem isGap_sides_iff {high low : List (List Char)} (hhigh : ∀ part ∈ high, part ≠ [])
    (hlow : ∀ part ∈ low, part ≠ []) {place : Nat}
    (hplace : place < (sideParts high ++ [] :: sideParts low).length) :
    (0 < place ∧ place + 1 < (sideParts high ++ [] :: sideParts low).length ∧
      (sideParts high ++ [] :: sideParts low)[place]?.getD [] = []) ↔
        place = (sideParts high).length := by
  have hhighLength := length_sideParts high
  have hlowLength := length_sideParts low
  simp only [List.length_append, List.length_cons] at hplace ⊢
  rcases lt_trichotomy place (sideParts high).length with hbefore | rfl | hafter
  · rw [List.getElem?_append_left hbefore, List.getElem?_eq_getElem hbefore, Option.getD_some]
    refine ⟨fun ⟨hpos, _, hempty⟩ ↦ ?_, fun h ↦ absurd h hbefore.ne⟩
    have hnone := eq_nil_of_mem_sideParts hhigh (hempty ▸ List.getElem_mem hbefore)
    subst hnone
    simp only [List.length_nil] at hhighLength
    omega
  · simp
    omega
  · obtain ⟨offset, rfl⟩ := Nat.exists_eq_add_of_lt hafter
    have hoffset : offset < (sideParts low).length := by omega
    rw [List.getElem?_append_right (by omega), show (sideParts high).length + offset + 1 -
      (sideParts high).length = offset + 1 by omega,
      List.getElem?_cons_succ, List.getElem?_eq_getElem hoffset, Option.getD_some]
    refine ⟨fun ⟨_, hlast, hempty⟩ ↦ ?_, fun h ↦ by omega⟩
    have hnone := eq_nil_of_mem_sideParts hlow (hempty ▸ List.getElem_mem hoffset)
    subst hnone
    simp only [List.length_nil] at hlowLength
    omega

/-- The gap stands between the parts of its sides. -/
theorem gap?_sides {high low : List (List Char)} (hhigh : ∀ part ∈ high, part ≠ [])
    (hlow : ∀ part ∈ low, part ≠ []) :
    gap? (sideParts high ++ [] :: sideParts low) = some (some (sideParts high).length) := by
  have hplaces : ((List.range (sideParts high ++ [] :: sideParts low).length).filter fun place ↦
      0 < place && place + 1 < (sideParts high ++ [] :: sideParts low).length &&
        ((sideParts high ++ [] :: sideParts low)[place]?.getD []).isEmpty) =
      (List.range (sideParts high ++ [] :: sideParts low).length).filter
        (· == (sideParts high).length) := by
    refine List.filter_congr fun place hplace ↦ ?_
    have hgap := isGap_sides_iff hhigh hlow (List.mem_range.1 hplace)
    rw [Bool.eq_iff_iff]
    simp only [Bool.and_eq_true, decide_eq_true_eq, List.isEmpty_iff, beq_iff_eq, and_assoc]
    exact hgap
  rw [gap?, hplaces, List.filter_beq, List.nodup_range.count]
  simp

/-- Parts none of which is empty have no gap. -/
theorem gap?_eq_none {parts : List (List Char)} (h : ∀ part ∈ parts, part ≠ []) :
    gap? parts = some none := by
  have hplaces : ((List.range parts.length).filter fun place ↦
      0 < place && place + 1 < parts.length && (parts[place]?.getD []).isEmpty) = [] := by
    refine List.filter_eq_nil_iff.2 fun place hplace ↦ ?_
    have hlt := List.mem_range.1 hplace
    rw [List.getElem?_eq_getElem hlt, Option.getD_some]
    simp [h _ (List.getElem_mem hlt)]
  rw [gap?, hplaces]

/-- A gap has parts on both of its sides. -/
theorem exists_sides_of_gap? {parts : List (List Char)} {place : Nat}
    (h : gap? parts = some (some place)) :
    parts.take place ≠ [] ∧ parts.drop (place + 1) ≠ [] ∧
      parts = parts.take place ++ [] :: parts.drop (place + 1) := by
  unfold gap? at h
  split at h
  · cases h
  · next found hfound =>
    obtain rfl := Option.some.inj (Option.some.inj h)
    have hmem := List.mem_singleton_self found
    rw [← hfound, List.mem_filter] at hmem
    simp only [Bool.and_eq_true, decide_eq_true_eq, List.isEmpty_iff] at hmem
    obtain ⟨-, ⟨hpos, hlast⟩, hempty⟩ := hmem
    have hlt : found < parts.length := by omega
    rw [List.getElem?_eq_getElem hlt, Option.getD_some] at hempty
    refine ⟨?_, ?_, ?_⟩
    · exact List.ne_nil_of_length_pos (by rw [List.length_take]; omega)
    · exact List.ne_nil_of_length_pos (by rw [List.length_drop]; omega)
    · rw [← hempty, List.getElem_cons_drop, List.take_append_drop]
  · cases h

/-- The parts beside a gap are found again from the text of their side. -/
theorem besideGap?_sideParts {side : List (List Char)} {outermost : List Char}
    (hside : ∀ part ∈ side, part ≠ []) (houtermost : outermost ∈ sideParts side) :
    besideGap? (sideParts side) (some outermost) = some side := by
  unfold besideGap?
  split
  · next hempty =>
    obtain rfl := Option.some.inj hempty
    rw [eq_nil_of_mem_sideParts hside houtermost]
    rfl
  · next hempty =>
    rw [sideParts, if_neg]
    rintro rfl
    exact hempty (congrArg some (List.mem_singleton.1 houtermost))

/-- What is found beside a gap is all that stands there, unless nothing does. -/
theorem eq_sideParts_of_besideGap? {side kept : List (List Char)}
    {outermost : Option (List Char)} (hside : side ≠ [])
    (houtermost : ∀ part, side = [part] → outermost = some part)
    (h : besideGap? side outermost = some kept) : side = sideParts kept := by
  unfold besideGap? at h
  split at h
  · next hempty =>
    split at h
    · next hlength =>
      obtain rfl := Option.some.inj h
      obtain ⟨part, rfl⟩ := List.length_eq_one_iff.1 hlength
      rw [houtermost part rfl] at hempty
      rw [Option.some.inj hempty]
      rfl
    · cases h
  · obtain rfl := Option.some.inj h
    exact (if_neg hside).symm

/-! ### Groups on both sides -/

/-- The parts of eight groups: all of them, or those on both sides of the gap. -/
inductive Grouped : List UInt16 → List (List Char) → Prop where
  | full {groups : List UInt16} {parts : List (List Char)}
      (hparts : List.Forall₂ SpellsGroup groups parts) (hlength : groups.length = 8) :
    Grouped groups parts
  | gap {high low : List UInt16} {highParts lowParts : List (List Char)}
      (hhigh : List.Forall₂ SpellsGroup high highParts)
      (hlow : List.Forall₂ SpellsGroup low lowParts) (hlength : high.length + low.length < 8) :
    Grouped (high ++ List.replicate (8 - (high.length + low.length)) 0 ++ low)
      (sideParts highParts ++ [] :: sideParts lowParts)

theorem ne_nil_of_spellsGroups {groups : List UInt16} {parts : List (List Char)}
    (h : List.Forall₂ SpellsGroup groups parts) : ∀ part ∈ parts, part ≠ [] := fun _ hpart ↦ by
  obtain ⟨group, -, hgroup⟩ := exists_mem_of_forall₂ h hpart
  exact hgroup.1

/-- Groups are read from parts when each part spells its group. -/
theorem mapM_group?_eq_some_iff {parts : List (List Char)} {groups : List UInt16} :
    parts.mapM group? = some groups ↔ List.Forall₂ SpellsGroup groups parts := by
  simp only [mapM_eq_some_iff, group?_eq_some_iff]

/-- Parts that are grouped are read as those groups. -/
theorem groups?_of_grouped {groups : List UInt16} {parts : List (List Char)}
    (h : Grouped groups parts) : groups? parts = some groups := by
  cases h with
  | full hparts hlength =>
    have hgap := gap?_eq_none (ne_nil_of_spellsGroups hparts)
    have hcount : parts.length ≤ 9 := by
      rw [← hparts.length_eq, hlength]
      decide
    simp only [groups?, hgap, mapM_group?_eq_some_iff.2 hparts, guard, hcount, if_true,
      Option.pure_def, Option.bind_eq_bind, Option.bind_some]
  | @gap high low highParts lowParts hhigh hlow hlength =>
    have hgap := gap?_sides (ne_nil_of_spellsGroups hhigh) (ne_nil_of_spellsGroups hlow)
    have hcount : (sideParts highParts ++ [] :: sideParts lowParts).length ≤ 9 := by
      have hhighLength := hhigh.length_eq
      have hlowLength := hlow.length_eq
      simp only [List.length_append, List.length_cons, length_sideParts]
      omega
    have hhead : (sideParts highParts ++ [] :: sideParts lowParts).head? =
        some ((sideParts highParts).head (sideParts_ne_nil _)) := by
      rw [List.head?_append_of_ne_nil _ (sideParts_ne_nil _), List.head?_eq_some_head]
    have hlast : (sideParts highParts ++ [] :: sideParts lowParts).getLast? =
        some ((sideParts lowParts).getLast (sideParts_ne_nil _)) := by
      rw [List.getLast?_append_cons, List.getLast?_cons_of_ne_nil (sideParts_ne_nil _),
        List.getLast?_eq_some_getLast]
    have htake : (sideParts highParts ++ [] :: sideParts lowParts).take
        (sideParts highParts).length = sideParts highParts := List.take_left' rfl
    have hdrop : (sideParts highParts ++ [] :: sideParts lowParts).drop
        ((sideParts highParts).length + 1) = sideParts lowParts := by
      rw [← List.drop_drop, List.drop_left' rfl]
      rfl
    have hhighSide := besideGap?_sideParts (ne_nil_of_spellsGroups hhigh)
      (List.head_mem (sideParts_ne_nil highParts))
    have hlowSide := besideGap?_sideParts (ne_nil_of_spellsGroups hlow)
      (List.getLast_mem (sideParts_ne_nil lowParts))
    rw [hhigh.length_eq, hlow.length_eq] at hlength
    simp only [groups?, hgap, hcount, hhead, hlast, htake, hdrop, hhighSide, hlowSide, hlength,
      mapM_group?_eq_some_iff.2 hhigh, mapM_group?_eq_some_iff.2 hlow, guard, if_true,
      Option.pure_def, Option.bind_eq_bind, Option.bind_some]

/-- Eight groups are read from grouped parts only. -/
theorem grouped_of_groups? {groups : List UInt16} {parts : List (List Char)}
    (h : groups? parts = some groups) (hlength : groups.length = 8) : Grouped groups parts := by
  unfold groups? at h
  simp only [Option.bind_eq_bind, Option.bind_eq_some_iff, Option.guard_eq_some', exists_const] at h
  obtain ⟨-, place, hgap, h⟩ := h
  cases place with
  | none => exact .full (mapM_group?_eq_some_iff.1 h) hlength
  | some place =>
    simp only [Option.bind_eq_some_iff, Option.guard_eq_some', exists_const, Option.pure_def,
      Option.some.injEq, mapM_group?_eq_some_iff] at h
    obtain ⟨highParts, hhighSide, lowParts, hlowSide, hless, high, hhigh, low, hlow, rfl⟩ := h
    obtain ⟨hhighNe, hlowNe, hparts⟩ := exists_sides_of_gap? hgap
    generalize parts.take place = highSide at *
    generalize parts.drop (place + 1) = lowSide at *
    subst hparts
    obtain rfl := eq_sideParts_of_besideGap? hhighNe (fun part hpart ↦ by simp [hpart]) hhighSide
    obtain rfl := eq_sideParts_of_besideGap? hlowNe (fun part hpart ↦ by simp [hpart]) hlowSide
    rw [← hhigh.length_eq, ← hlow.length_eq] at hless
    exact .gap hhigh hlow hless

end SpanBridge.Ipv6
