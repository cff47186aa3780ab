import Mathlib
import Montage.Text.Alphanumeric
import Montage.Text.LetterCase
import Montage.Text.Lines

/-! Pieces of a text between marks. -/
namespace Montage.Text

variable {isMark : Char → Bool} {piece : List Char} {mark : Char}

theorem splitOn_ne_nil (cs : List Char) : splitOn isMark cs ≠ [] := by
  cases cs with
  | nil => exact List.cons_ne_nil _ _
  | cons c rest =>
    rw [splitOn]
    split
    · exact List.cons_ne_nil _ _
    · split <;> exact List.cons_ne_nil _ _

/-- A mark ends one piece and starts another. -/
theorem splitOn_append (hmark : isMark mark = true) (cs rest : List Char) :
    splitOn isMark (cs ++ mark :: rest) = splitOn isMark cs ++ splitOn isMark rest := by
  induction cs with
  | nil => simp [splitOn, hmark]
  | cons c cs ih =>
    rw [List.cons_append, splitOn, splitOn, ih]
    split
    · rfl
    · cases hpieces : splitOn isMark cs with
      | nil => exact absurd hpieces (splitOn_ne_nil cs)
      | cons piece pieces => rfl

theorem splitOn_of_no_mark (hpiece : ∀ c ∈ piece, isMark c = false) :
    splitOn isMark piece = [piece] := by
  induction piece with
  | nil => rfl
  | cons c piece ih =>
    have hc : isMark c = false := hpiece c List.mem_cons_self
    have hrest := ih fun d hd => hpiece d (List.mem_cons_of_mem c hd)
    simp [splitOn, hc, hrest]

theorem splitOn_append_mark (hpiece : ∀ c ∈ piece, isMark c = false) (hmark : isMark mark = true)
    (rest : List Char) : splitOn isMark (piece ++ mark :: rest) = piece :: splitOn isMark rest := by
  rw [splitOn_append hmark, splitOn_of_no_mark hpiece]
  rfl

/-- A piece is a part of the text. -/
theorem mem_of_mem_splitOn {cs : List Char} (hpiece : piece ∈ splitOn isMark cs) {c : Char}
    (hc : c ∈ piece) : c ∈ cs := by
  induction cs generalizing piece with
  | nil =>
    rw [splitOn, List.mem_singleton] at hpiece
    rwa [hpiece] at hc
  | cons first rest ih =>
    rw [splitOn] at hpiece
    split at hpiece
    · rcases List.mem_cons.mp hpiece with rfl | hpiece
      · exact absurd hc List.not_mem_nil
      · exact List.mem_cons_of_mem first (ih hpiece hc)
    · split at hpiece
      · rename_i hnone
        exact absurd hnone (splitOn_ne_nil rest)
      · rename_i head pieces hpieces
        rw [hpieces] at ih
        rcases List.mem_cons.mp hpiece with rfl | hpiece
        · rcases List.mem_cons.mp hc with rfl | hc
          · exact List.mem_cons_self
          · exact List.mem_cons_of_mem first (ih List.mem_cons_self hc)
        · exact List.mem_cons_of_mem first (ih (List.mem_cons_of_mem head hpiece) hc)

/-- A piece has no mark in it. -/
theorem not_isMark_of_mem_splitOn {cs : List Char} (hpiece : piece ∈ splitOn isMark cs) {c : Char}
    (hc : c ∈ piece) : isMark c = false := by
  induction cs generalizing piece with
  | nil =>
    rw [splitOn, List.mem_singleton] at hpiece
    rw [hpiece] at hc
    exact absurd hc List.not_mem_nil
  | cons first rest ih =>
    rw [splitOn] at hpiece
    split at hpiece
    · rcases List.mem_cons.mp hpiece with rfl | hpiece
      · exact absurd hc List.not_mem_nil
      · exact ih hpiece hc
    · rename_i hfirst
      split at hpiece
      · rename_i hnone
        exact absurd hnone (splitOn_ne_nil rest)
      · rename_i head pieces hpieces
        rw [hpieces] at ih
        rcases List.mem_cons.mp hpiece with rfl | hpiece
        · rcases List.mem_cons.mp hc with rfl | hc
          · exact eq_false_of_ne_true hfirst
          · exact ih List.mem_cons_self hc
        · exact ih (List.mem_cons_of_mem head hpiece) hc

end Montage.Text

/-! Lower case keeps words apart. Letters and digits stay letters and digits, and every other
character stays what it is, so that a word occurs in a text in lower case only inside one of the
words of that text. -/
namespace Montage.Text

/-! ### Single characters -/

/-- One of the ranges holds all code points from one number to another. -/
def Ranges.fill (ranges : Ranges) (low high : Nat) : Bool :=
  ranges.any fun range => Nat.ble range.1 low && Nat.ble high range.2

theorem Ranges.holds_of_fill {ranges : Ranges} {low high : Nat} {c : Char}
    (h : ranges.fill low high = true) (hlow : low ≤ c.toNat) (hhigh : c.toNat ≤ high) :
    ranges.holds c = true := by
  obtain ⟨range, hrange, hfit⟩ := List.any_eq_true.mp h
  rw [Bool.and_eq_true, Nat.ble_eq, Nat.ble_eq] at hfit
  refine List.any_eq_true.mpr ⟨range, hrange, ?_⟩
  rw [Bool.and_eq_true, decide_eq_true_iff, decide_eq_true_iff]
  exact ⟨hfit.1.trans hlow, hhigh.trans hfit.2⟩

/-- The members of a run are letters or digits. -/
def isLetterRun : Nat × Nat × Nat × Int → Bool
  | (low, high, step, _) => alphanumericRanges.fill low high ||
    (List.range ((high - low) / step + 1)).all fun k =>
      alphanumericRanges.fill (low + k * step) (low + k * step)

/-- What the members of a run become in lower case are letters or digits. -/
def isLetterTarget : Nat × Nat × Nat × Int → Bool
  | (low, high, _, distance) =>
    alphanumericRanges.fill (low + distance).toNat (high + distance).toNat &&
    (Nat.ble (high + distance).toNat 0xD7FF ||
      (Nat.ble 0xE000 (low + distance).toNat && Nat.ble (high + distance).toNat 0x10FFFF))

theorem lowerRuns_all :
    (lowerRuns.all fun run => isLetterRun run && isLetterTarget run) = true := by
  decide +kernel

theorem toNat_ofNat_of_scalar {n : Nat} (h : n ≤ 0xD7FF ∨ 0xE000 ≤ n ∧ n ≤ 0x10FFFF) :
    (Char.ofNat n).toNat = n := by
  have hvalid : n.isValidChar := by
    rcases h with h | h
    · exact Or.inl (by omega)
    · exact Or.inr ⟨by omega, by omega⟩
  rw [Char.ofNat, dif_pos hvalid]
  rfl

variable {c d : Char}

/-- A character whose lower case is another one is a letter, and so is the other one. -/
theorem lowerChar_cases (c : Char) :
    c = 'İ' ∨ lowerChar c = [c] ∨
      isAlphanumeric c = true ∧ ∃ d, lowerChar c = [d] ∧ isAlphanumeric d = true := by
  unfold lowerChar
  split
  · rename_i hcode
    refine Or.inl ?_
    rw [← Char.ofNat_toNat c, hcode]
  · refine Or.inr ?_
    split
    · rename_i low high step distance hfind
      have hfits := List.all_eq_true.mp lowerRuns_all _ (List.mem_of_find?_eq_some hfind)
      have hmember := List.find?_some hfind
      simp only [Bool.and_eq_true, decide_eq_true_iff] at hmember
      obtain ⟨⟨hlow, hhigh⟩, hstep⟩ := hmember
      rw [Bool.and_eq_true] at hfits
      obtain ⟨hrun, htarget⟩ := hfits
      rw [isLetterTarget, Bool.and_eq_true, Bool.or_eq_true, Bool.and_eq_true, Nat.ble_eq,
        Nat.ble_eq, Nat.ble_eq] at htarget
      refine Or.inr ⟨?_, _, rfl, ?_⟩
      · rw [isLetterRun, Bool.or_eq_true] at hrun
        rcases hrun with hrun | hrun
        · exact Ranges.holds_of_fill hrun hlow hhigh
        · have hk : (c.toNat - low) / step < (high - low) / step + 1 :=
            Nat.lt_succ_of_le (Nat.div_le_div_right (by omega))
          have hcode : low + (c.toNat - low) / step * step = c.toNat := by
            have := Nat.div_add_mod (c.toNat - low) step
            rw [hstep, Nat.add_zero, Nat.mul_comm] at this
            omega
          have hfill := List.all_eq_true.mp hrun _ (List.mem_range.mpr hk)
          rw [hcode] at hfill
          exact Ranges.holds_of_fill hfill (le_refl _) (le_refl _)
      · have hcode := toNat_ofNat_of_scalar (n := (c.toNat + distance).toNat) (by omega)
        exact Ranges.holds_of_fill htarget.1 (by omega) (by omega)
    · exact Or.inl rfl

theorem isAlphanumeric_dotted : isAlphanumeric 'İ' = true := by
  decide +kernel

theorem lowerChar_of_mark (h : isAlphanumeric c = false) : lowerChar c = [c] := by
  rcases lowerChar_cases c with rfl | hsame | ⟨hletter, -⟩
  · rw [isAlphanumeric_dotted] at h
    cases h
  · exact hsame
  · rw [h] at hletter
    cases hletter

theorem isAlphanumeric_of_mem_lowerChar (hc : isAlphanumeric c = true) (hdotted : c ≠ 'İ')
    (hd : d ∈ lowerChar c) : isAlphanumeric d = true := by
  rcases lowerChar_cases c with rfl | hsame | ⟨-, e, hsame, he⟩
  · exact absurd rfl hdotted
  · rw [hsame, List.mem_singleton] at hd
    rw [hd]
    exact hc
  · rw [hsame, List.mem_singleton] at hd
    rw [hd]
    exact he

theorem lowerChar_ne_nil (c : Char) : lowerChar c ≠ [] := by
  unfold lowerChar
  split
  · exact List.cons_ne_nil _ _
  · split <;> exact List.cons_ne_nil _ _

/-! ### Texts -/

variable {cs word piece : List Char}

/-- Only the Greek sigma looks at what stands around it. -/
theorem lowerFrom_eq_flatMap (h : 'Σ' ∉ cs) (before : List Char) :
    lowerFrom before cs = cs.flatMap lowerChar := by
  induction cs generalizing before with
  | nil => rfl
  | cons c rest ih =>
    rw [List.mem_cons, not_or] at h
    have hsigma : c.toNat ≠ 931 := by
      intro hcode
      refine h.1 ?_
      rw [← Char.ofNat_toNat c, hcode]
    rw [lowerFrom, List.flatMap_cons, ih h.2]
    simp only [hsigma, if_false]

theorem lower_eq_flatMap (h : 'Σ' ∉ cs) : lower cs = cs.flatMap lowerChar :=
  lowerFrom_eq_flatMap h []

theorem isAlphanumeric_of_mem_lowerFrom (hcs : ∀ c ∈ cs, isAlphanumeric c = true)
    (hdotted : 'İ' ∉ cs) (before : List Char) (hd : d ∈ lowerFrom before cs) :
    isAlphanumeric d = true := by
  have hsigmas : isAlphanumeric 'ς' = true ∧ isAlphanumeric 'σ' = true := by decide +kernel
  induction cs generalizing before with
  | nil => cases hd
  | cons c rest ih =>
    rw [List.mem_cons, not_or] at hdotted
    rw [lowerFrom, List.mem_append] at hd
    rcases hd with hd | hd
    · split at hd
      · rw [List.mem_singleton] at hd
        rw [hd]
        split
        · exact hsigmas.1
        · exact hsigmas.2
      · exact isAlphanumeric_of_mem_lowerChar (hcs c List.mem_cons_self) (Ne.symm hdotted.1) hd
    · exact ih (fun e he => hcs e (List.mem_cons_of_mem c he)) hdotted.2 _ hd

theorem lower_ne_nil (h : cs ≠ []) : lower cs ≠ [] := by
  cases cs with
  | nil => exact absurd rfl h
  | cons c rest =>
    rw [lower, lowerFrom, ne_eq, List.append_eq_nil_iff, not_and_or]
    left
    split
    · exact List.cons_ne_nil _ _
    · exact lowerChar_ne_nil c

/-! ### Parts of texts -/

theorem contains_iff_infix : contains word cs = true ↔ word <:+: cs := by
  induction cs with
  | nil => rw [contains, List.isEmpty_iff, List.infix_nil]
  | cons c rest ih =>
    rw [contains, Bool.or_eq_true, ih, List.isPrefixOf_iff_prefix, List.infix_cons_iff]

/-- What does not hold a mark lies on one side of it. -/
theorem infix_append_cons_iff {xs ys : List Char} {mark : Char} (h : mark ∉ word) :
    word <:+: xs ++ mark :: ys ↔ word <:+: xs ∨ word <:+: ys := by
  constructor
  · rintro ⟨front, back, heq⟩
    rw [List.append_assoc] at heq
    rcases List.append_eq_append_iff.mp heq with ⟨rest, rfl, hrest⟩ | ⟨rest, rfl, hrest⟩
    · rcases List.append_eq_append_iff.mp hrest with ⟨more, rfl, -⟩ | ⟨more, rfl, hmore⟩
      · exact Or.inl ⟨front, more, by simp⟩
      · cases more with
        | nil => exact Or.inl ⟨front, [], by simp⟩
        | cons m more =>
          rw [List.cons_append, List.cons.injEq] at hmore
          exact absurd (by simp [hmore.1]) h
    · cases rest with
      | nil =>
        cases word with
        | nil => exact Or.inl (List.nil_infix)
        | cons w word =>
          rw [List.nil_append, List.cons_append, List.cons.injEq] at hrest
          exact absurd (by simp [hrest.1]) h
      | cons m rest =>
        rw [List.cons_append, List.cons.injEq] at hrest
        exact Or.inr ⟨rest, back, by rw [hrest.2, List.append_assoc]⟩
  · rintro (hx | hy)
    · exact hx.trans (List.infix_append' [] xs _)
    · exact hy.trans (List.suffix_append_of_suffix (List.suffix_cons mark ys)).isInfix

/-- A text without marks before the rest belongs to the first piece. -/
theorem infix_lowerChars_append (hword : ∀ c ∈ word, isAlphanumeric c = true)
    (hpiece : ∀ c ∈ piece, (!isAlphanumeric c) = false) (rest : List Char) :
    word <:+: (piece ++ rest).flatMap lowerChar ↔
      ∃ other ∈ splitOn (!isAlphanumeric ·) (piece ++ rest), word <:+: other.flatMap lowerChar := by
  induction rest generalizing piece with
  | nil =>
    rw [List.append_nil, splitOn_of_no_mark hpiece]
    simp
  | cons c rest ih =>
    cases hc : isAlphanumeric c with
    | true =>
      have hgrown : ∀ d ∈ piece ++ [c], (!isAlphanumeric d) = false := by
        simp only [List.mem_append, List.mem_singleton]
        rintro d (hd | rfl)
        · exact hpiece d hd
        · simp [hc]
      have h := ih hgrown
      rwa [List.append_assoc, List.singleton_append] at h
    | false =>
      have hmark : c ∉ word := by
        intro hmem
        rw [hword c hmem] at hc
        cases hc
      have hrest := ih (fun d hd => absurd hd List.not_mem_nil)
      rw [List.nil_append] at hrest
      rw [List.flatMap_append, List.flatMap_cons, lowerChar_of_mark hc, List.singleton_append,
        infix_append_cons_iff hmark, hrest, splitOn_append_mark hpiece (by simp [hc])]
      simp

/-- A word of letters and digits occurs in a text in lower case inside one of its words. -/
theorem infix_lower_iff (hword : ∀ c ∈ word, isAlphanumeric c = true) (h : 'Σ' ∉ cs) :
    word <:+: lower cs ↔ ∃ piece ∈ splitOn (!isAlphanumeric ·) cs, word <:+: lower piece := by
  rw [lower_eq_flatMap h, ← List.nil_append cs,
    infix_lowerChars_append hword (fun c hc => absurd hc List.not_mem_nil), List.nil_append]
  refine exists_congr fun piece => and_congr_right fun hpiece => ?_
  rw [lower_eq_flatMap fun hmem => h (mem_of_mem_splitOn hpiece hmem)]

end Montage.Text
