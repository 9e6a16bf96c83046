import Mathlib.Tactic
import SpanBridge.LocalAddress

/-!
# Which address is preferred

The usable addresses are collected one by one, a repeated one only once, and then arranged by
version. Leaving out repetitions changes nothing about the first address of any kind
(`find?_usable`), and arranging by version leaves the addresses of each version in their order
(`filter_isV4_sorted`). So the preferred address is the first usable one of version four, or else
the first usable one (`preferred_eq`).
-/

set_option autoImplicit false
set_option relaxedAutoImplicit false

namespace SpanBridge.LocalAddress

/-! ### Collecting -/

/-- A kept address is found after those kept before. -/
theorem find?_keep (P : Address → Bool) (kept : List Address) (address : Address) :
    (keep kept address).find? P =
      (kept.find? P).or (if address.isUsable && P address then some address else none) := by
  unfold keep
  split
  · next hnew =>
    rw [Bool.and_eq_true] at hnew
    rw [List.find?_append, List.find?_singleton, hnew.1, Bool.true_and]
  · next hold =>
    by_cases hmatch : (address.isUsable && P address) = true
    · -- the address was kept before, so something is found there already
      obtain ⟨husable, haddress⟩ := Bool.and_eq_true_iff.1 hmatch
      have hmem : address ∈ kept := by simpa [husable] using hold
      have hsome : (kept.find? P).isSome := List.find?_isSome.2 ⟨address, hmem, haddress⟩
      rw [Option.or_of_isSome hsome]
    · rw [if_neg hmatch, Option.or_none]

/-- What is found among the kept addresses is the first usable one found, unless one was kept
before. -/
theorem find?_foldl_keep (P : Address → Bool) (found kept : List Address) :
    (found.foldl keep kept).find? P =
      (kept.find? P).or (found.find? fun address ↦ address.isUsable && P address) := by
  induction found generalizing kept with
  | nil => simp
  | cons address found ih =>
    rw [List.foldl_cons, ih, find?_keep, Option.or_assoc, List.find?_cons]
    congr 1
    cases address.isUsable && P address <;> rfl

/-- The first usable address of some kind is the first one that was found. -/
theorem find?_usable (P : Address → Bool) (found : List Address) :
    (usable found).find? P = found.find? fun address ↦ address.isUsable && P address := by
  rw [usable, find?_foldl_keep]
  rfl

/-- The first of the usable addresses is the first usable one found. -/
theorem head?_usable (found : List Address) :
    (usable found).head? = found.find? Address.isUsable := by
  have hany := find?_usable (fun _ ↦ true) found
  simp only [Bool.and_true] at hany
  rw [← hany]
  cases usable found <;> rfl

/-! ### Arranging by version -/

/-- The order of preference is transitive. -/
theorem isBefore_trans (first second third : Address) (h : isBefore first second = true)
    (h' : isBefore second third = true) : isBefore first third = true := by
  simp only [isBefore, decide_eq_true_eq] at *
  exact h.trans h'

/-- The order of preference is total. -/
theorem isBefore_total (first second : Address) :
    (isBefore first second || isBefore second first) = true := by
  simp only [isBefore, Bool.or_eq_true, decide_eq_true_eq]
  exact Nat.le_total _ _

/-- Only an IPv4 address stands before an IPv4 address. -/
theorem isV4_of_isBefore {first second : Address} (h : isBefore first second = true)
    (hsecond : second.isV4 = true) : first.isV4 = true := by
  cases first with
  | v4 address => rfl
  | v6 address =>
    cases second with
    | v4 other => exact absurd (of_decide_eq_true h) (by decide : ¬6 ≤ 4)
    | v6 other => cases hsecond

/-- Addresses of one version are preferred equally. -/
theorem isBefore_of_isV4_eq {first second : Address} (h : first.isV4 = second.isV4) :
    isBefore first second = true := by
  cases first <;> cases second <;> first | rfl | cases h

/-- Arranging by version is stable: the addresses of version four stay in their order. -/
theorem filter_isV4_sorted (candidates : List Address) :
    (candidates.mergeSort isBefore).filter Address.isV4 = candidates.filter Address.isV4 := by
  have hsorted : (candidates.filter Address.isV4).Pairwise
      fun first second ↦ isBefore first second = true :=
    List.pairwise_of_forall_mem_list fun first hfirst second hsecond ↦
      isBefore_of_isV4_eq ((List.mem_filter.1 hfirst).2.trans (List.mem_filter.1 hsecond).2.symm)
  have hsublist := (List.sublist_mergeSort isBefore_trans isBefore_total hsorted
    List.filter_sublist).filter Address.isV4
  rw [List.filter_filter, List.filter_congr fun address _ ↦ Bool.and_self _] at hsublist
  exact (hsublist.eq_of_length
    ((List.mergeSort_perm candidates isBefore).filter Address.isV4).length_eq.symm).symm

/-- The first address after sorting is the first IPv4 address, or the first one if there is none. -/
theorem head?_sorted (candidates : List Address) :
    (candidates.mergeSort isBefore).head? =
      (candidates.find? Address.isV4).or candidates.head? := by
  cases hfound : candidates.find? Address.isV4 with
  | none =>
    -- all are of version six, so they are in order already
    have hv6 := List.find?_eq_none.1 hfound
    have hsorted : candidates.Pairwise fun first second ↦ isBefore first second = true :=
      List.pairwise_of_forall_mem_list fun first hfirst second hsecond ↦
        isBefore_of_isV4_eq (by rw [Bool.eq_false_of_not_eq_true (hv6 first hfirst),
          Bool.eq_false_of_not_eq_true (hv6 second hsecond)])
    rw [List.mergeSort_of_pairwise hsorted, Option.none_or]
  | some address =>
    have hmem : address ∈ candidates.mergeSort isBefore :=
      List.mem_mergeSort.2 (List.mem_of_find?_eq_some hfound)
    have hordered := List.pairwise_mergeSort isBefore_trans isBefore_total candidates
    have hfirst : (candidates.mergeSort isBefore).find? Address.isV4 = some address := by
      rw [← List.head?_filter, filter_isV4_sorted, List.head?_filter, hfound]
    cases hsorted : candidates.mergeSort isBefore with
    | nil => simp [hsorted] at hmem
    | cons first others =>
      rw [hsorted] at hmem hordered hfirst
      have hv4 : first.isV4 = true := by
        rcases List.mem_cons.1 hmem with rfl | hmem
        · exact List.find?_some hfound
        · exact isV4_of_isBefore ((List.pairwise_cons.1 hordered).1 address hmem)
            (List.find?_some hfound)
      rw [List.find?_cons_of_pos hv4] at hfirst
      exact hfirst

/-- The first usable address of version four is preferred, or else the first usable one. -/
theorem preferred_eq (found : List Address) :
    preferred found =
      (found.find? fun address ↦ address.isUsable && address.isV4).or
        (found.find? Address.isUsable) := by
  rw [preferred, head?_sorted, find?_usable, head?_usable]

/-- No address is preferred exactly when none is usable. -/
theorem preferred_eq_none_iff {found : List Address} :
    preferred found = none ↔ ∀ address ∈ found, address.isUsable = false := by
  rw [preferred_eq, Option.or_eq_none_iff, List.find?_eq_none, List.find?_eq_none]
  simp only [Bool.and_eq_true, not_and, Bool.not_eq_true]
  exact ⟨fun h ↦ h.2, fun h ↦ ⟨fun address hmem husable ↦ by simp [h address hmem] at husable, h⟩⟩

/-- The preferred address is one of those found and usable. -/
theorem mem_of_preferred {found : List Address} {address : Address}
    (h : preferred found = some address) : address ∈ found ∧ address.isUsable = true := by
  rw [preferred_eq] at h
  rcases Option.or_eq_some_iff.1 h with hv4 | ⟨-, hfirst⟩
  · have hboth := List.find?_some hv4
    exact ⟨List.mem_of_find?_eq_some hv4, (Bool.and_eq_true_iff.1 hboth).1⟩
  · exact ⟨List.mem_of_find?_eq_some hfirst, List.find?_some hfirst⟩

end SpanBridge.LocalAddress
