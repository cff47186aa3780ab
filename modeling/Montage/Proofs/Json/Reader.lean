import Mathlib.Logic.Relation
import Montage.Proofs.Json.Bare

/-! The reader of JSON texts as a system of steps: it ends in a value exactly when steps lead there,
and no step leaves the text as long as it is. -/
namespace Montage.Json.Source

variable {cs rest : List Char} {c : Char} {v : Source}

/-! ### Strings -/

/-- The units that stand before the closing quote, and the rest after it. -/
inductive Spells : List Char → List CodeUnit → List Char → Prop
  | close (rest : List Char) : Spells ('\x22' :: rest) [] rest
  | number {cs after rest : List Char} {units : List CodeUnit} {n : Nat}
      (hunit : hexUnit? cs = some (n, after)) (h : Spells after units rest) :
      Spells ('\\' :: 'u' :: cs) (.number n :: units) rest
  | escape {cs rest : List Char} {units : List CodeUnit} {e c : Char}
      (hescape : simpleEscape? e = some c) (h : Spells cs units rest) :
      Spells ('\\' :: e :: cs) (.char c :: units) rest
  | char {cs rest : List Char} {units : List CodeUnit} {c : Char} (hquote : c ≠ '\x22')
      (hslash : c ≠ '\\') (hvisible : 32 ≤ c.toNat) (h : Spells cs units rest) :
      Spells (c :: cs) (.char c :: units) rest

theorem isBare_of_hexValue? {n : Nat} (h : hexValue? c = some n) : IsBare c := by
  refine .inl ?_
  change ((c.isUpper || c.isLower) || c.isDigit) = true
  rw [Bool.or_eq_true, Bool.or_eq_true]
  unfold hexValue? at h
  split at h
  · rename_i hdigit
    exact .inr hdigit
  split at h
  · rename_i hlower
    exact .inl (.inr (Bool.and_eq_true_iff.mpr
      ⟨decide_eq_true hlower.1, decide_eq_true (UInt32.le_trans hlower.2 (by decide))⟩))
  split at h
  · rename_i hupper
    exact .inl (.inl (decide_eq_true ⟨hupper.1, UInt32.le_trans hupper.2 (by decide)⟩))
  · cases h

theorem hexUnit?_local {n : Nat} (h : hexUnit? cs = some (n, rest)) :
    ∃ used, cs = used ++ rest ∧ used.length = 4 ∧ (∀ c ∈ used, IsBare c) ∧
      ∀ more, hexUnit? (used ++ more) = some (n, more) := by
  unfold hexUnit? at h
  split at h
  · rename_i a b c d after
    simp only [Option.bind_eq_bind, Option.bind_eq_some_iff] at h
    obtain ⟨_, ha, _, hb, _, hc, _, hd, h⟩ := h
    cases h
    refine ⟨[a, b, c, d], rfl, rfl, ?_, ?_⟩
    · simp [isBare_of_hexValue? ha, isBare_of_hexValue? hb, isBare_of_hexValue? hc,
        isBare_of_hexValue? hd]
    · intro more
      simp [hexUnit?, ha, hb, hc, hd]
  · cases h

theorem length_of_hexUnit? {n : Nat} (h : hexUnit? cs = some (n, rest)) :
    cs.length = rest.length + 4 := by
  obtain ⟨used, rfl, hlength, -⟩ := hexUnit?_local h
  rw [List.length_append, hlength, Nat.add_comm]

theorem Spells.length_lt {units : List CodeUnit} (h : Spells cs units rest) :
    rest.length < cs.length := by
  induction h with
  | close rest => simp
  | number hunit h ih =>
    have hlength := length_of_hexUnit? hunit
    simp only [List.length_cons]
    omega
  | escape hescape h ih =>
    simp only [List.length_cons]
    omega
  | char hquote hslash hvisible h ih =>
    simp only [List.length_cons]
    omega

theorem exists_spells {fuel : Nat} {before units : List CodeUnit}
    (h : units? fuel before cs = some (units, rest)) :
    ∃ read, Spells cs read rest ∧ units = read.reverse ++ before := by
  fun_induction units? fuel before cs with
  | case1 before fuel cs n after hunit ih =>
    obtain ⟨read, hread, rfl⟩ := ih h
    exact ⟨.number n :: read, .number hunit hread, by simp⟩
  | case2 => cases h
  | case3 before fuel e cs hu c hescape ih =>
    obtain ⟨read, hread, rfl⟩ := ih h
    exact ⟨.char c :: read, .escape hescape hread, by simp⟩
  | case4 => cases h
  | case5 before fuel cs =>
    cases h
    exact ⟨[], .close rest, rfl⟩
  | case6 => cases h
  | case7 before fuel c cs hplain hescape hquote hchar ih =>
    obtain ⟨hvisible, hslash⟩ := not_or.mp hchar
    obtain ⟨read, hread, rfl⟩ := ih h
    exact ⟨.char c :: read, .char hquote hslash (Nat.le_of_not_lt hvisible) hread, by simp⟩
  | case8 => cases h

theorem units?_of_spells {units : List CodeUnit} (h : Spells cs units rest) {fuel : Nat}
    (hfuel : cs.length < fuel) (before : List CodeUnit) :
    units? fuel before cs = some (units.reverse ++ before, rest) := by
  induction h generalizing fuel before with
  | close rest =>
    obtain ⟨fuel, rfl⟩ := Nat.exists_eq_add_one_of_ne_zero (Nat.ne_zero_of_lt hfuel)
    simp [units?]
  | number hunit h ih =>
    have hlength := length_of_hexUnit? hunit
    obtain ⟨fuel, rfl⟩ := Nat.exists_eq_add_one_of_ne_zero (Nat.ne_zero_of_lt hfuel)
    simp only [List.length_cons] at hfuel
    rw [units?, hunit]
    simp only
    rw [ih (by omega)]
    simp
  | escape hescape h ih =>
    rename_i e c
    have hu : e ≠ 'u' := by
      rintro rfl
      cases hescape
    obtain ⟨fuel, rfl⟩ := Nat.exists_eq_add_one_of_ne_zero (Nat.ne_zero_of_lt hfuel)
    simp only [List.length_cons] at hfuel
    rw [units?, hescape]
    · simp only
      rw [ih (by omega)]
      simp
    · exact hu
  | char hquote hslash hvisible h ih =>
    rename_i c
    have hchar : ¬ (c.toNat < 32 ∨ c = '\\') := by
      rintro (hlt | heq)
      · omega
      · exact hslash heq
    obtain ⟨fuel, rfl⟩ := Nat.exists_eq_add_one_of_ne_zero (Nat.ne_zero_of_lt hfuel)
    simp only [List.length_cons] at hfuel
    rw [units?, if_neg hquote, if_neg hchar, ih (by omega)]
    · simp
    · rintro rest rfl
      exact absurd rfl hslash
    · rintro e rest rfl
      exact absurd rfl hslash

/-- A string is what its units stand for. -/
theorem text?_eq_some_iff {text : Option String} : text? cs = some (text, rest) ↔
    ∃ units, Spells cs units rest ∧ text = (textBefore? [] units.reverse).map String.ofList := by
  rw [text?, Option.map_eq_some_iff]
  constructor
  · rintro ⟨⟨units, after⟩, hunits, heq⟩
    cases heq
    obtain ⟨read, hread, rfl⟩ := exists_spells hunits
    exact ⟨read, hread, by rw [List.append_nil]⟩
  · rintro ⟨units, hunits, rfl⟩
    refine ⟨(units.reverse, rest), ?_, rfl⟩
    rw [units?_of_spells hunits (Nat.lt_succ_self _), List.append_nil]

/-! ### Values -/

/-- Where the reader stands. -/
structure Stage where
  next : Next
  frames : List Frame
  text : List Char

/-- What the reader does next, one case for each way to go on. -/
inductive Step : Stage → Stage → Prop
  | string {frames : List Frame} {cs rest more : List Char} {text : Option String}
      (hcs : skipSpace cs = '\x22' :: rest) (htext : text? rest = some (text, more)) :
      Step ⟨.value, frames, cs⟩ ⟨.after (.string text), frames, more⟩
  | noItems {frames : List Frame} {cs rest more : List Char} (hcs : skipSpace cs = '[' :: rest)
      (hrest : skipSpace rest = ']' :: more) :
      Step ⟨.value, frames, cs⟩ ⟨.after (.array []), frames, more⟩
  | items {frames : List Frame} {cs rest : List Char} (hcs : skipSpace cs = '[' :: rest)
      (hrest : ∀ c ∈ (skipSpace rest).head?, c ≠ ']') :
      Step ⟨.value, frames, cs⟩ ⟨.value, .items [] :: frames, skipSpace rest⟩
  | noFields {frames : List Frame} {cs rest more : List Char}
      (hcs : skipSpace cs = '\x7b' :: rest) (hrest : skipSpace rest = '\x7d' :: more) :
      Step ⟨.value, frames, cs⟩ ⟨.after (.object []), frames, more⟩
  | fields {frames : List Frame} {cs rest : List Char} (hcs : skipSpace cs = '\x7b' :: rest)
      (hrest : ∀ c ∈ (skipSpace rest).head?, c ≠ '\x7d') :
      Step ⟨.value, frames, cs⟩ ⟨.name [], frames, skipSpace rest⟩
  | bare {frames : List Frame} {cs more : List Char} {v : Source}
      (hcs : ∀ c ∈ (skipSpace cs).head?, c ∉ ['\x22', '[', '\x7b'])
      (hbare : bare? (skipSpace cs) = some (v, more)) :
      Step ⟨.value, frames, cs⟩ ⟨.after v, frames, more⟩
  | name {before : List (Option String × Source)} {frames : List Frame}
      {cs rest more after : List Char} {name : Option String}
      (hcs : skipSpace cs = '\x22' :: rest) (hname : text? rest = some (name, more))
      (hmore : skipSpace more = ':' :: after) :
      Step ⟨.name before, frames, cs⟩ ⟨.value, .fields before name :: frames, after⟩
  | nextItem {v : Source} {before : List Source} {frames : List Frame} {cs rest : List Char}
      (hcs : skipSpace cs = ',' :: rest) :
      Step ⟨.after v, .items before :: frames, cs⟩ ⟨.value, .items (v :: before) :: frames, rest⟩
  | lastItem {v : Source} {before : List Source} {frames : List Frame} {cs rest : List Char}
      (hcs : skipSpace cs = ']' :: rest) :
      Step ⟨.after v, .items before :: frames, cs⟩
        ⟨.after (.array (v :: before).reverse), frames, rest⟩
  | nextField {v : Source} {before : List (Option String × Source)} {name : Option String}
      {frames : List Frame} {cs rest : List Char} (hcs : skipSpace cs = ',' :: rest) :
      Step ⟨.after v, .fields before name :: frames, cs⟩
        ⟨.name ((name, v) :: before), frames, rest⟩
  | lastField {v : Source} {before : List (Option String × Source)} {name : Option String}
      {frames : List Frame} {cs rest : List Char} (hcs : skipSpace cs = '\x7d' :: rest) :
      Step ⟨.after v, .fields before name :: frames, cs⟩
        ⟨.after (.object ((name, v) :: before).reverse), frames, rest⟩

variable {s t : Stage}

/-- The value that the reader comes to, and the rest of the text after it. -/
def Reads (s : Stage) (v : Source) (rest : List Char) : Prop :=
  Relation.ReflTransGen Step s ⟨.after v, [], rest⟩

theorem skipSpace_length_le (cs : List Char) : (skipSpace cs).length ≤ cs.length :=
  (List.dropWhile_suffix _).length_le

theorem length_of_skipSpace_cons (h : skipSpace cs = c :: rest) : rest.length < cs.length := by
  have hle := skipSpace_length_le cs
  rw [h, List.length_cons] at hle
  exact hle

theorem length_of_text? {text : Option String} (h : text? cs = some (text, rest)) :
    rest.length < cs.length := by
  obtain ⟨units, hunits, -⟩ := text?_eq_some_iff.mp h
  exact hunits.length_lt

theorem length_of_bare? (h : bare? cs = some (v, rest)) : rest.length < cs.length := by
  obtain ⟨used, hne, rfl, -⟩ := bare?_local h
  have hpos := List.length_pos_iff.mpr hne
  rw [List.length_append]
  omega

/-- Every step takes a character. -/
theorem Step.length_lt (h : Step s t) : t.text.length < s.text.length := by
  cases h with
  | string hcs htext => exact (length_of_text? htext).trans (length_of_skipSpace_cons hcs)
  | noItems hcs hrest => exact (length_of_skipSpace_cons hrest).trans (length_of_skipSpace_cons hcs)
  | items hcs hrest => exact (skipSpace_length_le _).trans_lt (length_of_skipSpace_cons hcs)
  | noFields hcs hrest =>
    exact (length_of_skipSpace_cons hrest).trans (length_of_skipSpace_cons hcs)
  | fields hcs hrest => exact (skipSpace_length_le _).trans_lt (length_of_skipSpace_cons hcs)
  | bare hcs hbare => exact (length_of_bare? hbare).trans_le (skipSpace_length_le _)
  | name hcs hname hmore =>
    exact (length_of_skipSpace_cons hmore).trans
      ((length_of_text? hname).trans (length_of_skipSpace_cons hcs))
  | nextItem hcs => exact length_of_skipSpace_cons hcs
  | lastItem hcs => exact length_of_skipSpace_cons hcs
  | nextField hcs => exact length_of_skipSpace_cons hcs
  | lastField hcs => exact length_of_skipSpace_cons hcs

theorem read?_of_step (h : Step s t) (fuel : Nat) :
    read? (fuel + 1) s.next s.frames s.text = read? fuel t.next t.frames t.text := by
  cases h with
  | string hcs htext => simp only [read?, hcs, htext]
  | noItems hcs hrest => simp only [read?, hcs, hrest]
  | items hcs hrest =>
    simp only [read?, hcs]
    split
    · rename_i heq
      rw [heq] at hrest
      exact absurd rfl (hrest _ rfl)
    · rfl
  | noFields hcs hrest => simp only [read?, hcs, hrest]
  | fields hcs hrest =>
    simp only [read?, hcs]
    split
    · rename_i heq
      rw [heq] at hrest
      exact absurd rfl (hrest _ rfl)
    · rfl
  | bare hcs hbare =>
    rw [bare?] at hbare
    simp only [read?]
    split
    · rename_i heq
      rw [heq] at hcs
      exact absurd (by decide) (hcs _ rfl)
    · rename_i heq
      rw [heq] at hcs
      exact absurd (by decide) (hcs _ rfl)
    · rename_i heq
      rw [heq] at hcs
      exact absurd (by decide) (hcs _ rfl)
    · rw [hbare]
  | name hcs hname hmore => simp only [read?, hcs, hname, hmore]
  | nextItem hcs => simp only [read?, hcs]
  | lastItem hcs => simp only [read?, hcs]
  | nextField hcs => simp only [read?, hcs]
  | lastField hcs => simp only [read?, hcs]

/-- The reader is done, or it takes one of the steps. -/
theorem exists_step {fuel : Nat} (h : read? (fuel + 1) s.next s.frames s.text = some (v, rest)) :
    s = ⟨.after v, [], rest⟩ ∨
      ∃ t, Step s t ∧ read? fuel t.next t.frames t.text = some (v, rest) := by
  obtain ⟨next, frames, cs⟩ := s
  dsimp only at h
  cases next with
  | value =>
    simp only [read?] at h
    split at h
    · rename_i hcs
      split at h
      · rename_i htext
        exact .inr ⟨_, .string hcs htext, h⟩
      · cases h
    · rename_i hcs
      split at h
      · rename_i hrest
        exact .inr ⟨_, .noItems hcs hrest, h⟩
      · rename_i hrest
        refine .inr ⟨_, .items hcs ?_, h⟩
        rintro c hc rfl
        obtain ⟨more, hmore⟩ := List.head?_eq_some_iff.mp hc
        exact hrest more hmore
    · rename_i hcs
      split at h
      · rename_i hrest
        exact .inr ⟨_, .noFields hcs hrest, h⟩
      · rename_i hrest
        refine .inr ⟨_, .fields hcs ?_, h⟩
        rintro c hc rfl
        obtain ⟨more, hmore⟩ := List.head?_eq_some_iff.mp hc
        exact hrest more hmore
    · rename_i hquote hbracket hbrace
      split at h
      · rename_i hbare
        refine .inr ⟨_, .bare ?_ hbare, h⟩
        intro c hc hmem
        obtain ⟨more, hmore⟩ := List.head?_eq_some_iff.mp hc
        simp only [List.mem_cons, List.not_mem_nil, or_false] at hmem
        rcases hmem with rfl | rfl | rfl
        · exact hquote more hmore
        · exact hbracket more hmore
        · exact hbrace more hmore
      · cases h
  | name before =>
    simp only [read?] at h
    split at h
    · rename_i hcs
      split at h
      · rename_i hname
        split at h
        · rename_i hmore
          exact .inr ⟨_, .name hcs hname hmore, h⟩
        · cases h
      · cases h
    · cases h
  | after w =>
    simp only [read?] at h
    split at h
    · cases h
      exact .inl rfl
    · split at h
      · rename_i hcs
        exact .inr ⟨_, .nextItem hcs, h⟩
      · rename_i hcs
        exact .inr ⟨_, .lastItem hcs, h⟩
      · cases h
    · split at h
      · rename_i hcs
        exact .inr ⟨_, .nextField hcs, h⟩
      · rename_i hcs
        exact .inr ⟨_, .lastField hcs, h⟩
      · cases h

theorem reads_of_read? {fuel : Nat} (h : read? fuel s.next s.frames s.text = some (v, rest)) :
    Reads s v rest := by
  induction fuel generalizing s with
  | zero => cases h
  | succ fuel ih =>
    rcases exists_step h with rfl | ⟨t, hstep, ht⟩
    · exact .refl
    · exact .head hstep (ih ht)

theorem read?_of_reads (h : Reads s v rest) {fuel : Nat} (hfuel : s.text.length < fuel) :
    read? fuel s.next s.frames s.text = some (v, rest) := by
  induction h using Relation.ReflTransGen.head_induction_on generalizing fuel with
  | refl =>
    obtain ⟨fuel, rfl⟩ := Nat.exists_eq_add_one_of_ne_zero (Nat.ne_zero_of_lt hfuel)
    rfl
  | head hstep h ih =>
    obtain ⟨fuel, rfl⟩ := Nat.exists_eq_add_one_of_ne_zero (Nat.ne_zero_of_lt hfuel)
    have hlength := hstep.length_lt
    rw [read?_of_step hstep, ih (by omega)]

theorem ofText?_eq_some_iff : ofText? cs = some v ↔
    ∃ rest, Reads ⟨.value, [], cs⟩ v rest ∧ skipSpace rest = [] := by
  rw [ofText?]
  constructor
  · intro h
    split at h
    · rename_i source rest hread
      split at h
      · rename_i hrest
        cases h
        exact ⟨rest, reads_of_read? (s := ⟨.value, [], cs⟩) hread, List.isEmpty_iff.mp hrest⟩
      · cases h
    · cases h
  · rintro ⟨rest, hreads, hrest⟩
    have hread : read? (cs.length + 2) .value [] cs = some (v, rest) :=
      read?_of_reads hreads (Nat.lt_add_of_pos_right (by decide))
    simp only [hread, hrest, List.isEmpty_nil, if_true]

end Montage.Json.Source
