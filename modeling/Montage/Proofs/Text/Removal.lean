import Mathlib.Data.List.Infix
import Montage.Text.LetterCase
import Montage.Text.Lines

/-! What is left of a text when the blanks around it or the marks in it are taken off. -/
namespace Montage.Text

variable {mark blanks cs ds used : List Char} {c : Char}

/-! ### Blanks -/

/-- No blank stands at either end. -/
structure IsTrimmed (cs : List Char) : Prop where
  head : ∀ c ∈ cs.head?, isBlank c = false
  last : ∀ c ∈ cs.getLast?, isBlank c = false

theorem trimLeft_eq_self (h : ∀ c ∈ cs.head?, isBlank c = false) : trimLeft cs = cs := by
  cases cs with
  | nil => rfl
  | cons c cs =>
    have hc : isBlank c = false := h c rfl
    rw [trimLeft, List.dropWhile_cons, hc]
    rfl

theorem trimLeft_append (h : ∀ c ∈ blanks, isBlank c = true) (cs : List Char) :
    trimLeft (blanks ++ cs) = trimLeft cs :=
  List.dropWhile_append_of_pos h

theorem not_isBlank_head_trimLeft (cs : List Char) :
    ∀ c ∈ (trimLeft cs).head?, isBlank c = false := by
  intro c hc
  have hhead := List.head?_dropWhile_not isBlank cs
  rw [trimLeft] at hc
  rw [Option.mem_def.mp hc] at hhead
  simpa using hhead

theorem trim_of_isTrimmed (h : IsTrimmed cs) : trim cs = cs := by
  have hlast : trimLeft cs.reverse = cs.reverse := by
    apply trimLeft_eq_self
    rw [List.head?_reverse]
    exact h.last
  rw [trim, trimLeft_eq_self h.head, trimRight, hlast, List.reverse_reverse]

theorem trim_append_left (h : ∀ c ∈ blanks, isBlank c = true) (cs : List Char) :
    trim (blanks ++ cs) = trim cs := by
  rw [trim, trimLeft_append h, trim]

/-- Blanks around a text that has none at its ends are taken off again. -/
theorem trim_surrounded {before after : List Char} (hbefore : ∀ c ∈ before, isBlank c = true)
    (hafter : ∀ c ∈ after, isBlank c = true) (h : IsTrimmed cs) :
    trim (before ++ cs ++ after) = cs := by
  rw [List.append_assoc, trim_append_left hbefore]
  cases cs with
  | nil =>
    have hnil : trimLeft after = [] := by
      rw [trimLeft, ← List.append_nil after, List.dropWhile_append_of_pos hafter]
      rfl
    rw [List.nil_append, trim, hnil]
    rfl
  | cons c cs =>
    have hleft : trimLeft (c :: cs ++ after) = c :: cs ++ after := trimLeft_eq_self h.head
    have hafter' : ∀ c ∈ after.reverse, isBlank c = true := fun c hc =>
      hafter c (List.mem_reverse.mp hc)
    have hright := trim_of_isTrimmed h
    rw [trim, trimLeft_eq_self h.head] at hright
    rw [trim, hleft, trimRight, List.reverse_append, trimLeft_append hafter', ← trimRight, hright]

theorem trim_prefix (cs : List Char) : trim cs <+: trimLeft cs := by
  have hsuffix : trimLeft (trimLeft cs).reverse <:+ (trimLeft cs).reverse :=
    List.dropWhile_suffix isBlank
  rw [← List.reverse_prefix, List.reverse_reverse] at hsuffix
  exact hsuffix

theorem isTrimmed_trim (cs : List Char) : IsTrimmed (trim cs) where
  head := by
    intro c hc
    obtain ⟨rest, hrest⟩ := trim_prefix cs
    apply not_isBlank_head_trimLeft cs
    rw [← hrest, List.head?_append, Option.mem_def.mp hc]
    rfl
  last := by
    intro c hc
    rw [trim, trimRight, List.getLast?_reverse] at hc
    exact not_isBlank_head_trimLeft _ c hc

theorem trim_trim (cs : List Char) : trim (trim cs) = trim cs :=
  trim_of_isTrimmed (isTrimmed_trim cs)

theorem mem_trimLeft (h : c ∈ cs) (hc : isBlank c = false) : c ∈ trimLeft cs := by
  induction cs with
  | nil => cases h
  | cons d cs ih =>
    rw [trimLeft, List.dropWhile_cons]
    split
    · rename_i hd
      rcases List.mem_cons.mp h with rfl | h
      · rw [hc] at hd
        cases hd
      · exact ih h
    · exact h

/-- Nothing but blanks is taken off. -/
theorem mem_trim (h : c ∈ cs) (hc : isBlank c = false) : c ∈ trim cs :=
  List.mem_reverse.mpr (mem_trimLeft (List.mem_reverse.mpr (mem_trimLeft h hc)) hc)

/-! ### Marks -/

/-- `mark` is left out at some of the places where it stands. -/
inductive Without (mark : List Char) : List Char → List Char → Prop
  | nil : Without mark [] []
  | keep {cs ds : List Char} (c : Char) (h : Without mark cs ds) : Without mark (c :: cs) (c :: ds)
  | cut {cs ds : List Char} (h : Without mark cs ds) : Without mark (mark ++ cs) ds

theorem exists_append_of_isPrefixOf {rest : List Char}
    (h : mark ≠ [] ∧ mark.isPrefixOf (c :: rest) = true) :
    c :: rest = mark ++ rest.drop (mark.length - 1) := by
  obtain ⟨hne, hprefix⟩ := h
  obtain ⟨d, name, rfl⟩ := List.exists_cons_of_ne_nil hne
  obtain ⟨rfl, more, rfl⟩ := List.cons_prefix_cons.mp (List.isPrefixOf_iff_prefix.mp hprefix)
  rw [List.length_cons, Nat.add_sub_cancel, List.drop_left, List.cons_append]

theorem without_removeAll (mark cs : List Char) : Without mark cs (removeAll mark cs) := by
  fun_induction removeAll mark cs with
  | case1 => exact .nil
  | case2 c rest h ih =>
    rw [exists_append_of_isPrefixOf h]
    exact .cut ih
  | case3 c rest h ih => exact .keep c ih

namespace Without

theorem sublist (h : Without mark cs ds) : ds.Sublist cs := by
  induction h with
  | nil => exact List.Sublist.refl []
  | keep c h ih => exact ih.cons_cons c
  | cut h ih => exact ih.trans (List.sublist_append_right mark _)

theorem eq_nil (h : Without mark [] ds) (hne : mark ≠ []) : ds = [] := by
  generalize htext : [] = text at h
  cases h with
  | nil => rfl
  | keep c h => cases htext
  | cut h => exact absurd (List.append_eq_nil_iff.mp htext.symm).1 hne

/-- A character that the mark does not begin with stays in front. -/
theorem cons {d : Char} {name : List Char} (h : Without (d :: name) (c :: cs) ds) (hc : c ≠ d) :
    ∃ rest, ds = c :: rest ∧ Without (d :: name) cs rest := by
  generalize htext : c :: cs = text at h
  cases h with
  | nil => cases htext
  | keep e h =>
    cases htext
    exact ⟨_, rfl, h⟩
  | cut h => exact absurd (List.cons.inj htext).1 hc

theorem append {d : Char} {name : List Char} (h : Without (d :: name) (used ++ cs) ds)
    (hused : d ∉ used) : ∃ rest, ds = used ++ rest ∧ Without (d :: name) cs rest := by
  induction used generalizing ds with
  | nil => exact ⟨ds, rfl, h⟩
  | cons c used ih =>
    have hc : c ≠ d := fun heq => hused (heq ▸ List.mem_cons_self)
    obtain ⟨more, rfl, hmore⟩ := h.cons hc
    obtain ⟨rest, rfl, hrest⟩ := ih hmore fun hd => hused (List.mem_cons_of_mem c hd)
    exact ⟨rest, rfl, hrest⟩

end Without

theorem prefix_of_prefix_append_cons {before after : List Char} (hc : c ∉ mark)
    (h : mark <+: before ++ c :: after) : mark <+: before := by
  rcases List.prefix_or_prefix_of_prefix h (List.prefix_append before (c :: after)) with
    hprefix | ⟨more, rfl⟩
  · exact hprefix
  · rw [List.prefix_append_right_inj, List.prefix_cons_iff] at h
    rcases h with rfl | ⟨name, rfl, -⟩
    · rw [List.append_nil]
    · exact absurd (List.mem_append_right before List.mem_cons_self) hc

/-- A character that is not in the mark keeps what stands before it apart from what follows. -/
theorem removeAll_append_cons (hc : c ∉ mark) (before after : List Char) :
    removeAll mark (before ++ c :: after) = removeAll mark before ++ c :: removeAll mark after := by
  fun_induction removeAll mark before with
  | case1 =>
    have hkeep : ¬ (mark ≠ [] ∧ mark.isPrefixOf (c :: after) = true) := by
      rintro ⟨hne, hprefix⟩
      have hnil : mark <+: [] :=
        prefix_of_prefix_append_cons hc (List.isPrefixOf_iff_prefix.mp hprefix)
      exact hne (List.prefix_nil.mp hnil)
    rw [List.nil_append, removeAll, if_neg hkeep, List.nil_append]
  | case2 d rest h ih =>
    have hsplit := exists_append_of_isPrefixOf h
    have hmore : mark ≠ [] ∧ mark.isPrefixOf (d :: (rest ++ c :: after)) = true := by
      refine ⟨h.1, List.isPrefixOf_iff_prefix.mpr ?_⟩
      rw [← List.cons_append, hsplit, List.append_assoc]
      exact List.prefix_append mark _
    have hlength : mark.length - 1 ≤ rest.length := by
      have hle := (List.isPrefixOf_iff_prefix.mp h.2).length_le
      rw [List.length_cons] at hle
      omega
    rw [List.cons_append, removeAll, if_pos hmore, List.drop_append_of_le_length hlength, ih]
  | case3 d rest h ih =>
    have hkeep : ¬ (mark ≠ [] ∧ mark.isPrefixOf (d :: (rest ++ c :: after)) = true) := by
      rintro ⟨hne, hprefix⟩
      rw [← List.cons_append] at hprefix
      have hbefore := prefix_of_prefix_append_cons hc (List.isPrefixOf_iff_prefix.mp hprefix)
      exact h ⟨hne, List.isPrefixOf_iff_prefix.mpr hbefore⟩
    rw [List.cons_append, removeAll, if_neg hkeep, ih, List.cons_append]

theorem removeAll_eq_self (h : ¬ mark <:+: cs) : removeAll mark cs = cs := by
  fun_induction removeAll mark cs with
  | case1 => rfl
  | case2 c rest hprefix ih =>
    exact absurd (List.isPrefixOf_iff_prefix.mp hprefix.2).isInfix h
  | case3 c rest hkeep ih =>
    rw [ih fun hrest => h (List.infix_cons hrest)]

/-- Where a mark stands, something is left out. -/
theorem length_removeAll_lt (hne : mark ≠ []) (h : mark <:+: cs) :
    (removeAll mark cs).length < cs.length := by
  fun_induction removeAll mark cs with
  | case1 => exact absurd (List.infix_nil.mp h) hne
  | case2 c rest hprefix ih =>
    have hle := (without_removeAll mark (rest.drop (mark.length - 1))).sublist.length_le
    rw [List.length_drop] at hle
    rw [List.length_cons]
    omega
  | case3 c rest hkeep ih =>
    rcases List.infix_cons_iff.mp h with hprefix | hrest
    · exact absurd ⟨hne, List.isPrefixOf_iff_prefix.mpr hprefix⟩ hkeep
    · exact Nat.succ_lt_succ (ih hrest)

end Montage.Text
