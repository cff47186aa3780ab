import Mathlib.Data.List.TakeWhile
import Montage.Json.Source
import Montage.Proofs.Number.Decimal

/-! Numbers and words at the front of a JSON text, whatever follows them. -/
namespace Montage.Json.Source

variable {cs ds rest more digits : List Char} {c : Char} {v : Source}

/-! ### Numbers -/

theorem takeWhile_digits_append (hds : ∀ c ∈ ds, c.isDigit = true)
    (hmore : ∀ c ∈ more.head?, c.isDigit = false) :
    (ds ++ more).takeWhile Char.isDigit = ds := by
  rw [List.takeWhile_append_of_pos hds]
  cases more with
  | nil => simp
  | cons c more => simp [hmore c rfl]

theorem dropWhile_digits_append (hds : ∀ c ∈ ds, c.isDigit = true)
    (hmore : ∀ c ∈ more.head?, c.isDigit = false) :
    (ds ++ more).dropWhile Char.isDigit = more := by
  rw [List.dropWhile_append_of_pos hds]
  cases more with
  | nil => rfl
  | cons c more => simp [hmore c rfl]

theorem fraction?_local (h : fraction? cs = some (digits, rest)) :
    ∃ used, cs = used ++ rest ∧ (∀ c ∈ used, Numeral.IsMark c) ∧ (∀ c ∈ used.head?, c = '.') ∧
      ∀ more : List Char, (∀ c ∈ more.head?, c.isDigit = false ∧ c ≠ '.') →
        fraction? (used ++ more) = some (digits, more) := by
  unfold fraction? at h
  split at h
  · rename_i after
    dsimp only at h
    split at h
    · cases h
    · rename_i hne
      cases h
      refine ⟨'.' :: after.takeWhile Char.isDigit, ?_, ?_, ?_, ?_⟩
      · rw [List.cons_append, List.takeWhile_append_dropWhile]
      · rintro c hc
        rcases List.mem_cons.mp hc with rfl | hc
        · exact .inr (by decide)
        · exact .inl (List.mem_takeWhile_imp hc)
      · rintro c hc
        exact (Option.some.inj hc).symm
      · intro more hmore
        have hdigits : ∀ c ∈ after.takeWhile Char.isDigit, c.isDigit = true := fun c hc =>
          List.mem_takeWhile_imp hc
        have hstop : ∀ c ∈ more.head?, c.isDigit = false := fun c hc => (hmore c hc).1
        rw [List.cons_append, fraction?]
        simp only [takeWhile_digits_append hdigits hstop, dropWhile_digits_append hdigits hstop,
          if_neg hne]
  · rename_i hpoint
    cases h
    refine ⟨[], rfl, by simp, by simp, ?_⟩
    intro more hmore
    rw [List.nil_append]
    unfold fraction?
    split
    · exact absurd rfl (hmore '.' rfl).2
    · rfl

theorem signed_of_isDigit (h : c.isDigit = true) (cs : List Char) :
    Numeral.signed (c :: cs) = (false, c :: cs) := by
  unfold Numeral.signed
  split
  · rename_i heq
    obtain ⟨rfl, -⟩ := List.cons.inj heq
    cases h
  · rename_i heq
    obtain ⟨rfl, -⟩ := List.cons.inj heq
    cases h
  · rfl

/-- A sign is taken from the front of digits whatever follows them. -/
theorem signed_local (cs : List Char) :
    ∃ sign, cs = sign ++ (Numeral.signed cs).2 ∧ (∀ c ∈ sign, Numeral.IsMark c) ∧
      ∀ more : List Char, (∃ c ∈ more.head?, c.isDigit = true) →
        Numeral.signed (sign ++ more) = ((Numeral.signed cs).1, more) := by
  unfold Numeral.signed
  split
  · exact ⟨['-'], rfl, by simp [Numeral.IsMark], fun more _ => rfl⟩
  · exact ⟨['+'], rfl, by simp [Numeral.IsMark], fun more _ => rfl⟩
  · refine ⟨[], rfl, by simp, ?_⟩
    rintro more ⟨c, hc, hdigit⟩
    obtain ⟨after, rfl⟩ := List.head?_eq_some_iff.mp hc
    exact signed_of_isDigit hdigit after

theorem power?_local {power : Option Int} (h : power? cs = some (power, rest)) :
    ∃ used, cs = used ++ rest ∧ (∀ c ∈ used, Numeral.IsMark c) ∧
      (∀ c ∈ used.head?, c = 'e' ∨ c = 'E') ∧
      ∀ more : List Char, (∀ c ∈ more.head?, c.isDigit = false ∧ c ≠ 'e' ∧ c ≠ 'E') →
        power? (used ++ more) = some (power, more) := by
  have hnone : ∀ more : List Char, (∀ c ∈ more.head?, c.isDigit = false ∧ c ≠ 'e' ∧ c ≠ 'E') →
      power? ([] ++ more) = some (none, more) := by
    intro more hmore
    cases more with
    | nil => rfl
    | cons c more =>
      obtain ⟨-, hlower, hupper⟩ := hmore c rfl
      rw [List.nil_append, power?, if_neg (not_or.mpr ⟨hlower, hupper⟩)]
  cases cs with
  | nil =>
    cases h
    exact ⟨[], rfl, by simp, by simp, hnone⟩
  | cons c after =>
    rw [power?] at h
    split at h
    · rename_i hmark
      dsimp only at h
      obtain ⟨sign, hsign, hmarks, hlocal⟩ := signed_local after
      generalize hsigned : Numeral.signed after = pair at h hsign hlocal
      obtain ⟨negative, body⟩ := pair
      dsimp only at h hsign hlocal
      split at h
      · cases h
      · rename_i hne
        cases h
        have hdigits : ∀ c ∈ body.takeWhile Char.isDigit, c.isDigit = true := fun c hc =>
          List.mem_takeWhile_imp hc
        refine ⟨c :: (sign ++ body.takeWhile Char.isDigit), ?_, ?_, ?_, ?_⟩
        · rw [List.cons_append, List.append_assoc, List.takeWhile_append_dropWhile, ← hsign]
        · intro d hd
          rcases List.mem_cons.mp hd with rfl | hd
          · rcases hmark with rfl | rfl
            · exact .inr (by decide)
            · exact .inr (by decide)
          · rcases List.mem_append.mp hd with hd | hd
            · exact hmarks d hd
            · exact .inl (hdigits d hd)
        · intro d hd
          obtain rfl := Option.some.inj hd
          exact hmark
        · intro more hmore
          have hstop : ∀ c ∈ more.head?, c.isDigit = false := fun c hc => (hmore c hc).1
          have hhead : ∃ c ∈ (body.takeWhile Char.isDigit ++ more).head?, c.isDigit = true := by
            obtain ⟨d, ds, hds⟩ := List.exists_cons_of_ne_nil (List.isEmpty_eq_false_iff.mp
              (Bool.eq_false_iff.mpr hne))
            refine ⟨d, ?_, hdigits d (hds ▸ List.mem_cons_self)⟩
            rw [hds]
            rfl
          rw [List.cons_append, List.append_assoc, power?, if_pos hmark, hlocal _ hhead]
          simp only [takeWhile_digits_append hdigits hstop, dropWhile_digits_append hdigits hstop,
            if_neg hne]
    · cases h
      exact ⟨[], rfl, by simp, by simp, hnone⟩

/-- What follows does not belong to a number. -/
def EndsNumber (cs : List Char) : Prop :=
  ∀ c ∈ cs.head?, c.isDigit = false ∧ c ≠ '.' ∧ c ≠ 'e' ∧ c ≠ 'E'

/-- A number without its sign. -/
def unsigned? (negative : Bool) (body : List Char) : Option (Source × List Char) := do
  let whole := body.takeWhile Char.isDigit
  if whole.isEmpty ∨ (1 < whole.length ∧ whole.head? = some '0') then none
  else
    let (fraction, rest) ← fraction? (body.dropWhile Char.isDigit)
    let (power, rest) ← power? rest
    some (number ⟨negative, whole, fraction, power⟩, rest)

theorem number?_dash (cs : List Char) : number? ('-' :: cs) = unsigned? true cs :=
  rfl

theorem number?_of_head (h : ∀ c ∈ cs.head?, c ≠ '-') : number? cs = unsigned? false cs := by
  unfold number?
  split
  rename_i hcs
  split at hcs
  · exact absurd rfl (h '-' rfl)
  · cases hcs
    rfl

theorem unsigned?_local {negative : Bool} (h : unsigned? negative cs = some (v, rest)) :
    ∃ used, cs = used ++ rest ∧ (∀ c ∈ used, Numeral.IsMark c) ∧
      (∃ c ∈ used.head?, c.isDigit = true) ∧
      ∀ more, EndsNumber more → unsigned? negative (used ++ more) = some (v, more) := by
  unfold unsigned? at h
  dsimp only at h
  split at h
  · cases h
  rename_i hwhole
  simp only [Option.bind_eq_bind, Option.bind_eq_some_iff, Prod.exists] at h
  obtain ⟨fraction, after, hfraction, power, rest, hpower, h⟩ := h
  cases h
  obtain ⟨pointed, hpointed, hpointedMarks, hpoint, hpointedLocal⟩ := fraction?_local hfraction
  obtain ⟨powered, hpowered, hpoweredMarks, hletter, hpoweredLocal⟩ := power?_local hpower
  have hdigits : ∀ c ∈ cs.takeWhile Char.isDigit, c.isDigit = true := fun c hc =>
    List.mem_takeWhile_imp hc
  refine ⟨cs.takeWhile Char.isDigit ++ (pointed ++ powered), ?_, ?_, ?_, ?_⟩
  · rw [List.append_assoc, List.append_assoc, ← hpowered, ← hpointed,
      List.takeWhile_append_dropWhile]
  · intro c hc
    rcases List.mem_append.mp hc with hc | hc
    · exact .inl (hdigits c hc)
    · rcases List.mem_append.mp hc with hc | hc
      · exact hpointedMarks c hc
      · exact hpoweredMarks c hc
  · cases hds : cs.takeWhile Char.isDigit with
    | nil =>
      rw [hds] at hwhole
      exact absurd (Or.inl rfl) hwhole
    | cons d ds => exact ⟨d, rfl, hdigits d (hds ▸ List.mem_cons_self)⟩
  · intro more hmore
    -- each part stops at the first character of the next one that is there
    have hafterPower : ∀ c ∈ (powered ++ more).head?, c.isDigit = false ∧ c ≠ '.' := by
      intro c hc
      cases powered with
      | nil => exact ⟨(hmore c hc).1, (hmore c hc).2.1⟩
      | cons d powered =>
        obtain rfl := Option.some.inj hc
        rcases hletter d rfl with rfl | rfl
        · decide
        · decide
    have hafterWhole : ∀ c ∈ (pointed ++ (powered ++ more)).head?, c.isDigit = false := by
      intro c hc
      cases pointed with
      | nil => exact (hafterPower c hc).1
      | cons d pointed =>
        obtain rfl := Option.some.inj hc
        rw [hpoint d rfl]
        decide
    have hstop : ∀ c ∈ more.head?, c.isDigit = false ∧ c ≠ 'e' ∧ c ≠ 'E' := fun c hc =>
      ⟨(hmore c hc).1, (hmore c hc).2.2⟩
    rw [List.append_assoc, List.append_assoc, unsigned?]
    simp only [takeWhile_digits_append hdigits hafterWhole,
      dropWhile_digits_append hdigits hafterWhole, if_neg hwhole, hpointedLocal _ hafterPower,
      hpoweredLocal _ hstop, Option.bind_eq_bind, Option.bind_some]

/-- A number ends where what follows cannot belong to it. -/
theorem number?_local (h : number? cs = some (v, rest)) :
    ∃ used, used ≠ [] ∧ cs = used ++ rest ∧ (∀ c ∈ used, Numeral.IsMark c) ∧
      ∀ more, EndsNumber more → number? (used ++ more) = some (v, more) := by
  by_cases hdash : ∃ body, cs = '-' :: body
  · obtain ⟨body, rfl⟩ := hdash
    obtain ⟨used, hused, hmarks, -, hlocal⟩ := unsigned?_local (number?_dash body ▸ h)
    refine ⟨'-' :: used, List.cons_ne_nil _ _, ?_, ?_, hlocal⟩
    · rw [hused, List.cons_append]
    · exact List.forall_mem_cons.mpr ⟨.inr (by decide), hmarks⟩
  · have hhead : ∀ c ∈ cs.head?, c ≠ '-' := by
      rintro c hc rfl
      obtain ⟨body, hbody⟩ := List.head?_eq_some_iff.mp hc
      exact hdash ⟨body, hbody⟩
    obtain ⟨used, hused, hmarks, ⟨d, hd, hdigit⟩, hlocal⟩ :=
      unsigned?_local (number?_of_head hhead ▸ h)
    obtain ⟨ds, rfl⟩ := List.head?_eq_some_iff.mp hd
    refine ⟨d :: ds, List.cons_ne_nil d ds, hused, hmarks, ?_⟩
    intro more hmore
    have hstart : ∀ c ∈ (d :: ds ++ more).head?, c ≠ '-' := by
      intro c hc
      obtain rfl := Option.some.inj hc
      rintro rfl
      cases hdigit
    rw [number?_of_head hstart]
    exact hlocal more hmore

/-! ### Words and numbers -/

/-- What numbers and the words for null, true and false are made of. -/
def IsBare (c : Char) : Prop :=
  c.isAlphanum = true ∨ c ∈ ['-', '+', '.']

instance : DecidablePred IsBare := fun c =>
  inferInstanceAs (Decidable (c.isAlphanum = true ∨ c ∈ ['-', '+', '.']))

theorem isBare_of_isDigit (h : c.isDigit = true) : IsBare c :=
  .inl (by rw [Char.isAlphanum, h, Bool.or_true])

theorem isBare_of_all (h : cs.all (fun c => decide (IsBare c)) = true) : ∀ c ∈ cs, IsBare c :=
  fun c hc => of_decide_eq_true (List.all_eq_true.mp h c hc)

theorem isBare_of_isMark (h : Numeral.IsMark c) : IsBare c := by
  rcases h with hdigit | hmark
  · exact isBare_of_isDigit hdigit
  · simp only [List.mem_cons, List.not_mem_nil, or_false] at hmark
    rcases hmark with rfl | rfl | rfl | rfl | rfl <;> decide

theorem isWritten_of_unsigned? {negative : Bool} (h : unsigned? negative cs = some (v, rest)) :
    ∃ n, v = .number n := by
  unfold unsigned? at h
  dsimp only at h
  split at h
  · cases h
  · simp only [Option.bind_eq_bind, Option.bind_eq_some_iff] at h
    obtain ⟨_, -, _, -, h⟩ := h
    cases h
    exact ⟨_, rfl⟩

theorem isWritten_of_number? (h : number? cs = some (v, rest)) : ∃ n, v = .number n := by
  by_cases hdash : ∃ body, cs = '-' :: body
  · obtain ⟨body, rfl⟩ := hdash
    exact isWritten_of_unsigned? (number?_dash body ▸ h)
  · have hhead : ∀ c ∈ cs.head?, c ≠ '-' := by
      rintro c hc rfl
      exact hdash (List.head?_eq_some_iff.mp hc)
    exact isWritten_of_unsigned? (number?_of_head hhead ▸ h)

theorem literal?_local (h : literal? cs = some (v, rest)) :
    ∃ used, used ≠ [] ∧ cs = used ++ rest ∧ (∀ c ∈ used, IsBare c) ∧
      ∀ more, literal? (used ++ more) = some (v, more) := by
  unfold literal? at h
  split at h
  · cases h
    exact ⟨['n', 'u', 'l', 'l'], List.cons_ne_nil _ _, rfl, isBare_of_all rfl, fun more => rfl⟩
  · cases h
    exact ⟨['t', 'r', 'u', 'e'], List.cons_ne_nil _ _, rfl, isBare_of_all rfl, fun more => rfl⟩
  · cases h
    exact ⟨['f', 'a', 'l', 's', 'e'], List.cons_ne_nil _ _, rfl, isBare_of_all rfl, fun more => rfl⟩
  · cases h

theorem literal?_of_isMark (h : Numeral.IsMark c) (cs : List Char) : literal? (c :: cs) = none := by
  have hletter : c ∉ ['n', 't', 'f'] := by
    intro hmem
    simp only [List.mem_cons, List.not_mem_nil, or_false] at hmem
    rcases hmem with rfl | rfl | rfl
    · rcases h with hdigit | hmark
      · cases hdigit
      · revert hmark
        decide
    · rcases h with hdigit | hmark
      · cases hdigit
      · revert hmark
        decide
    · rcases h with hdigit | hmark
      · cases hdigit
      · revert hmark
        decide
  unfold literal?
  split <;> simp_all

/-- A word or a number, as both stand where a value is read. -/
def bare? (cs : List Char) : Option (Source × List Char) :=
  (literal? cs).or (number? cs)

theorem bare?_local (h : bare? cs = some (v, rest)) :
    ∃ used, used ≠ [] ∧ cs = used ++ rest ∧ (∀ c ∈ used, IsBare c) ∧
      ∀ more, EndsNumber more → bare? (used ++ more) = some (v, more) := by
  rw [bare?] at h
  rcases Option.or_eq_some_iff.mp h with hword | ⟨-, hnumber⟩
  · obtain ⟨used, hne, hused, hbare, hlocal⟩ := literal?_local hword
    refine ⟨used, hne, hused, hbare, ?_⟩
    intro more hmore
    rw [bare?, hlocal, Option.some_or]
  · obtain ⟨used, hne, hused, hmarks, hlocal⟩ := number?_local hnumber
    refine ⟨used, hne, hused, fun c hc => isBare_of_isMark (hmarks c hc), ?_⟩
    intro more hmore
    obtain ⟨c, used, rfl⟩ := List.exists_cons_of_ne_nil hne
    rw [bare?, hlocal more hmore, List.cons_append,
      literal?_of_isMark (hmarks c List.mem_cons_self), Option.none_or]

end Montage.Json.Source
