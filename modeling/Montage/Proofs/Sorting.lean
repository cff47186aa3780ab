import Mathlib

/-! Sorting is stable. Elements that tie stand as they did before, and leaving some out does not
move the others past each other. -/
namespace Montage

variable {β : Type} {le : β → β → Bool} {xs ys : List β} {P : β → Bool} {x y : β}

/-- Sorting does not move tied elements past each other. -/
theorem filter_mergeSort_of_tied (htrans : ∀ a b c, le a b → le b c → le a c)
    (htotal : ∀ a b, le a b || le b a) (htied : ∀ a b, P a → P b → le a b) (xs : List β) :
    (xs.mergeSort le).filter P = xs.filter P := by
  have hsorted : (xs.filter P).Pairwise fun a b => le a b :=
    List.pairwise_of_forall_mem_list fun a ha b hb =>
      htied a b (List.mem_filter.mp ha).2 (List.mem_filter.mp hb).2
  have hsublist := (List.sublist_mergeSort htrans htotal hsorted List.filter_sublist).filter P
  simp only [List.filter_filter, Bool.and_self] at hsublist
  have hlength := ((List.mergeSort_perm xs le).filter P).length_eq
  exact (hsublist.eq_of_length hlength.symm).symm

/-- The first element stands after those that it must not precede, and before all others. -/
theorem mergeSort_cons_eq (htrans : ∀ a b c, le a b → le b c → le a c)
    (htotal : ∀ a b, le a b || le b a) (a : β) (xs : List β) :
    (a :: xs).mergeSort le =
      (xs.mergeSort le).filter (!le a ·) ++ a :: (xs.mergeSort le).filter (le a ·) := by
  obtain ⟨low, high, hcons, hrest, hlow⟩ := List.mergeSort_cons htrans htotal a xs
  have hsorted := List.pairwise_mergeSort htrans htotal (a :: xs)
  rw [hcons] at hsorted
  have hhigh : ∀ b ∈ high, le a b = true :=
    (List.pairwise_cons.mp (List.pairwise_append.mp hsorted).2.1).1
  have hbefore : (low ++ high).filter (!le a ·) = low := by
    rw [List.filter_append, List.filter_eq_self.mpr hlow, List.filter_eq_nil_iff.mpr,
      List.append_nil]
    intro b hb
    simp [hhigh b hb]
  have hafter : (low ++ high).filter (le a ·) = high := by
    rw [List.filter_append, List.filter_eq_self.mpr hhigh, List.filter_eq_nil_iff.mpr,
      List.nil_append]
    intro b hb
    simpa using hlow b hb
  rw [hrest, hcons, hbefore, hafter]

/-- Leaving elements out before sorting leaves the others in the order that they would have had. -/
theorem sublist_mergeSort_of_sublist (htrans : ∀ a b c, le a b → le b c → le a c)
    (htotal : ∀ a b, le a b || le b a) (h : xs.Sublist ys) :
    (xs.mergeSort le).Sublist (ys.mergeSort le) := by
  induction h with
  | slnil => exact List.Sublist.refl _
  | @cons xs ys a _ ih =>
    obtain ⟨low, high, hcons, hrest, -⟩ := List.mergeSort_cons htrans htotal a ys
    rw [hcons]
    rw [hrest] at ih
    exact ih.trans ((List.sublist_cons_self a high).append_left low)
  | cons_cons a _ ih =>
    rw [mergeSort_cons_eq htrans htotal, mergeSort_cons_eq htrans htotal]
    exact (ih.filter _).append ((ih.filter _).cons_cons a)

/-- Which of two elements comes first can be told in any part of the list that holds both. -/
theorem idxOf_filter_lt_iff [BEq β] [LawfulBEq β] (hx : P x) (hy : P y) :
    (xs.filter P).idxOf x < (xs.filter P).idxOf y ↔ xs.idxOf x < xs.idxOf y := by
  induction xs with
  | nil => rfl
  | cons z rest ih =>
    by_cases hz : P z
    · rw [List.filter_cons_of_pos hz]
      by_cases hzy : z = y
      · simp [hzy]
      · by_cases hzx : z = x
        · simp [hzx, List.idxOf_cons_ne, hzx ▸ hzy]
        · simp [List.idxOf_cons_ne, hzx, hzy, ih]
    · have hzx : z ≠ x := fun heq => hz (heq ▸ hx)
      have hzy : z ≠ y := fun heq => hz (heq ▸ hy)
      rw [List.filter_cons_of_neg hz, ih, List.idxOf_cons_ne rest hzx, List.idxOf_cons_ne rest hzy]
      exact Nat.succ_lt_succ_iff.symm

/-- Where sorting tells elements apart, one that is there already comes to stand beside itself. -/
theorem exists_mergeSort_cons_of_mem (htrans : ∀ a b c, le a b → le b c → le a c)
    (htotal : ∀ a b, le a b || le b a) (hantisymm : ∀ a b, le a b → le b a → a = b)
    (h : x ∈ xs) :
    ∃ low high, xs.mergeSort le = low ++ x :: high ∧
      (x :: xs).mergeSort le = low ++ x :: x :: high := by
  have hrefl : le x x = true := by simpa using htotal x x
  obtain ⟨low, high, hcons, hrest, hlow⟩ := List.mergeSort_cons htrans htotal x xs
  have hsorted := List.pairwise_mergeSort htrans htotal (x :: xs)
  rw [hcons] at hsorted
  obtain ⟨hhigh, htail⟩ := List.pairwise_cons.mp (List.pairwise_append.mp hsorted).2.1
  have hmem : x ∈ low ++ high := hrest ▸ List.mem_mergeSort.mpr h
  have hx : x ∈ high := by
    refine (List.mem_append.mp hmem).resolve_left fun hx => ?_
    simpa [hrefl] using hlow x hx
  cases high with
  | nil => cases hx
  | cons y high =>
    have hxy : x = y := by
      rcases List.mem_cons.mp hx with heq | hx
      · exact heq
      · exact hantisymm x y (hhigh y List.mem_cons_self) ((List.pairwise_cons.mp htail).1 x hx)
    rw [← hxy] at hcons hrest
    exact ⟨low, high, hrest, hcons⟩

end Montage
