import Montage.Proofs.Number.Exact
import Montage.Proofs.Number.Printed

/-! Exact values as text. With fixed places, the text is at most half a unit of the last place off.
A value with finitely many decimals is printed with all of them, so that its text reads back.
Seconds are printed without what does not count, and read back as the value with six decimals. -/
namespace Montage

namespace Scalar

/-! ### Dropping at the end -/

variable {cs : List Char} {c : Char}

theorem dropTrailing_eq_rdropWhile (c : Char) (cs : List Char) :
    dropTrailing c cs = cs.rdropWhile (· = c) := rfl

/-- Nothing before another character is dropped. -/
theorem dropTrailing_append_cons {d : Char} (hd : d ≠ c) (before after : List Char) :
    dropTrailing c (before ++ d :: after) = before ++ d :: dropTrailing c after := by
  simp only [dropTrailing_eq_rdropWhile]
  induction after using List.reverseRecOn with
  | nil => exact List.rdropWhile_concat_neg _ _ _ (by simpa using hd)
  | append_singleton after e ih =>
    rw [← List.cons_append, ← List.append_assoc, List.rdropWhile_concat, List.rdropWhile_concat]
    split
    · exact ih
    · rw [List.append_assoc, List.cons_append]

theorem dropTrailing_eq_self (h : cs.getLast? ≠ some c) : dropTrailing c cs = cs := by
  rw [dropTrailing_eq_rdropWhile, List.rdropWhile_eq_self_iff]
  intro hne hlast
  exact h (by rw [List.getLast?_eq_some_getLast hne, of_decide_eq_true hlast])

theorem getLast?_dropTrailing_ne (c : Char) (cs : List Char) :
    (dropTrailing c cs).getLast? ≠ some c := by
  intro h
  have hne : cs.rdropWhile (· = c) ≠ [] := by
    rintro hnil
    rw [dropTrailing_eq_rdropWhile, hnil] at h
    cases h
  have hlast := List.rdropWhile_last_not (· = c) cs hne
  rw [dropTrailing_eq_rdropWhile, List.getLast?_eq_some_getLast hne] at h
  exact hlast (decide_eq_true (Option.some.inj h))

theorem exists_eq_dropTrailing_append (c : Char) (cs : List Char) :
    ∃ k, cs = dropTrailing c cs ++ List.replicate k c := by
  have hdropped : ∀ d ∈ cs.rtakeWhile (· = c), d = c :=
    fun d hd => of_decide_eq_true (List.mem_rtakeWhile_imp (p := (· = c)) hd)
  refine ⟨(cs.rtakeWhile (· = c)).length, ?_⟩
  rw [← List.eq_replicate_of_mem hdropped, dropTrailing_eq_rdropWhile,
    List.rdropWhile_append_rtakeWhile]

end Scalar

namespace Decimal

variable {cs : List Char}

/-- Zeros at the end of a fraction do not count. -/
theorem quantity_zeros (h : ∀ c ∈ cs, c.isDigit = true) (fraction : List Char) (k : Nat) :
    quantity (cs ++ '.' :: (fraction ++ List.replicate k '0')) =
      quantity (cs ++ '.' :: fraction) := by
  have hpos : (0 : Rat) < 10 ^ k := by positivity
  have hvalue : Numeral.value (cs ++ fraction ++ List.replicate k '0') =
      Numeral.value (cs ++ fraction) * 10 ^ k := by
    rw [value_append, value_replicate_zero, List.length_replicate, Nat.add_zero]
  rw [quantity_point _ h, quantity_point _ h, ← List.append_assoc, hvalue, List.length_append,
    List.length_replicate, pow_add]
  push_cast
  exact mul_div_mul_right _ _ (ne_of_gt hpos)

theorem quantity_point_nil (h : ∀ c ∈ cs, c.isDigit = true) :
    quantity (cs ++ ['.']) = quantity cs := by
  rw [quantity_point [] h, quantity_of_digits h, List.append_nil, List.length_nil, pow_zero,
    div_one]

/-- A divisor of a power of ten divides a power that its own length in bits bounds. -/
theorem dvd_pow_log2 {d n : Nat} (h : d ∣ 10 ^ n) : d ∣ 10 ^ Nat.log2 d := by
  induction d using Nat.strong_induction_on with
  | _ d ih =>
    by_cases hone : d = 1
    · rw [hone]
      exact Nat.one_dvd _
    have hcommon : ¬ Nat.Coprime d 10 := fun hcoprime =>
      hone (Nat.Coprime.eq_one_of_dvd (hcoprime.pow_right n) h)
    -- A common prime factor of ten takes one bit at least off the divisor.
    obtain ⟨p, hp, ⟨e, rfl⟩, hten⟩ := Nat.Prime.not_coprime_iff_dvd.mp hcommon
    have hpos : 0 < p * e := Nat.pos_of_dvd_of_pos h (by positivity)
    have he : 0 < e := Nat.pos_of_mul_pos_left hpos
    have hrest : e ∣ 10 ^ Nat.log2 e :=
      ih e (lt_mul_of_one_lt_left he hp.one_lt) ((Nat.dvd_mul_left e p).trans h)
    have hlog : Nat.log2 e + 1 ≤ Nat.log2 (p * e) := by
      rw [Nat.le_log2 (Nat.ne_of_gt hpos), pow_succ']
      exact Nat.mul_le_mul hp.two_le (Nat.log2_self_le (Nat.ne_of_gt he))
    calc p * e ∣ 10 * 10 ^ Nat.log2 e := Nat.mul_dvd_mul hten hrest
      _ = 10 ^ (Nat.log2 e + 1) := (pow_succ' _ _).symm
      _ ∣ 10 ^ Nat.log2 (p * e) := Nat.pow_dvd_pow 10 hlog

/-! ### Without the zeros at the end -/

variable {c : Char} {places units : Nat}

/-- A count of units of `10 ^ -places`, without the zeros at the end of its fraction. -/
def shortened (places units : Nat) : List Char :=
  let fraction := (padded places (units % pow10 places)).reverse.dropWhile (· = '0')
  digits (units / pow10 places) ++ (if fraction.isEmpty then [] else '.' :: fraction.reverse)

/-- Either no fraction is left, or it ends in a digit that counts. -/
theorem shortened_cases (places units : Nat) :
    let fraction := Scalar.dropTrailing '0' (padded places (units % pow10 places))
    fraction = [] ∧ shortened places units = digits (units / pow10 places) ∨
      fraction ≠ [] ∧ shortened places units = digits (units / pow10 places) ++ '.' :: fraction := by
  intro fraction
  unfold shortened
  dsimp only
  split
  · rename_i hempty
    refine Or.inl ⟨?_, List.append_nil _⟩
    exact List.reverse_eq_nil_iff.mpr (List.isEmpty_iff.mp hempty)
  · rename_i hleft
    refine Or.inr ⟨fun hempty => hleft ?_, rfl⟩
    exact List.isEmpty_iff.mpr (List.reverse_eq_nil_iff.mp hempty)

theorem isDigit_of_mem_fraction
    (h : c ∈ Scalar.dropTrailing '0' (padded places (units % pow10 places))) :
    c.isDigit = true :=
  isDigit_of_mem_padded ((Scalar.dropTrailing_sublist _ _).subset h)

theorem isDigit_or_eq_point_of_mem_shortened (h : c ∈ shortened places units) :
    c.isDigit = true ∨ c = '.' := by
  rcases shortened_cases places units with ⟨-, hshort⟩ | ⟨-, hshort⟩ <;> rw [hshort] at h
  · exact Or.inl (isDigit_of_mem_digits h)
  · rcases List.mem_append.mp h with h | h
    · exact Or.inl (isDigit_of_mem_digits h)
    · rcases List.mem_cons.mp h with rfl | h
      · exact Or.inr rfl
      · exact Or.inl (isDigit_of_mem_fraction h)

theorem dash_notMem_shortened (places units : Nat) : '-' ∉ shortened places units := by
  intro h
  rcases isDigit_or_eq_point_of_mem_shortened h with h | h <;> revert h <;> decide

theorem shortened_ne_nil (places units : Nat) : shortened places units ≠ [] :=
  fun h => digits_ne_nil _ (List.append_eq_nil_iff.mp h).1

theorem quantity_shortened (hplaces : places ≠ 0) (units : Nat) :
    quantity (shortened places units) = units / 10 ^ places := by
  have hwhole : ∀ c ∈ digits (units / pow10 places), c.isDigit = true :=
    fun _ hc => isDigit_of_mem_digits hc
  have hpointed := quantity_pointed places units
  obtain ⟨k, hzeros⟩ :=
    Scalar.exists_eq_dropTrailing_append '0' (padded places (units % pow10 places))
  rw [pointed, if_neg hplaces, hzeros, quantity_zeros hwhole] at hpointed
  rcases shortened_cases places units with ⟨hempty, hshort⟩ | ⟨-, hshort⟩ <;> rw [hshort]
  · change quantity (digits _ ++ '.' :: Scalar.dropTrailing '0' _) = _ at hpointed
    rw [hempty, quantity_point_nil hwhole] at hpointed
    exact hpointed
  · exact hpointed

theorem digits_zero : digits 0 = ['0'] := by
  rw [digits]
  rfl

theorem eq_zero_of_head?_digits {n : Nat} (h : (digits n).head? = some '0') : n = 0 := by
  fun_induction digits n with
  | case1 n hsmall =>
    have hvalue := digitValue_digitChar n hsmall
    rw [Option.some.inj h] at hvalue
    exact hvalue.symm
  | case2 n hlarge ih =>
    rw [List.head?_append_of_ne_nil _ (digits_ne_nil _)] at h
    have hrest := ih h
    omega

/-- A zero in front is the whole part. -/
theorem eq_point_of_shortened_eq {rest : List Char}
    (h : shortened places units = '0' :: c :: rest) : c = '.' := by
  have hhead : (shortened places units).head? = some '0' := by rw [h, List.head?_cons]
  rw [shortened, List.head?_append_of_ne_nil _ (digits_ne_nil _)] at hhead
  have hwhole := eq_zero_of_head?_digits hhead
  rcases shortened_cases places units with ⟨-, hshort⟩ | ⟨-, hshort⟩ <;>
    rw [h, hwhole, digits_zero] at hshort
  · cases hshort
  · exact (List.cons.inj (List.cons.inj hshort).2).1

theorem shortened_eq_zero_iff (hplaces : places ≠ 0) :
    shortened places units = ['0'] ↔ units = 0 := by
  constructor
  · intro h
    have hquantity := quantity_shortened hplaces units
    rw [h, show quantity ['0'] = 0 by decide +kernel, eq_comm, div_eq_zero_iff] at hquantity
    exact_mod_cast hquantity.resolve_right (by positivity)
  · rintro rfl
    have hfraction : Scalar.dropTrailing '0' (padded places (0 % pow10 places)) = [] := by
      rw [Nat.zero_mod, Scalar.dropTrailing_eq_rdropWhile, List.rdropWhile_eq_nil_iff]
      intro c hc
      rcases List.mem_append.mp hc with hc | hc
      · exact decide_eq_true (List.eq_of_mem_replicate hc)
      · rw [digits_zero] at hc
        exact decide_eq_true (List.mem_singleton.mp hc)
    rcases shortened_cases places 0 with ⟨-, hshort⟩ | ⟨hne, -⟩
    · rw [hshort, Nat.zero_div, digits_zero]
    · exact absurd hfraction hne

theorem getLast?_shortened_ne_point (start : List Char) (places units : Nat) :
    (start ++ shortened places units).getLast? ≠ some '.' := by
  rw [List.getLast?_append_of_ne_nil _ (shortened_ne_nil places units)]
  intro hlast
  have hdigit : ('.').isDigit = true := by
    rcases shortened_cases places units with ⟨-, hshort⟩ | ⟨hne, hshort⟩ <;> rw [hshort] at hlast
    · exact isDigit_of_mem_digits (List.mem_of_getLast? hlast)
    · rw [List.getLast?_append_cons, List.getLast?_cons_of_ne_nil hne] at hlast
      exact isDigit_of_mem_fraction (List.mem_of_getLast? hlast)
  exact absurd hdigit (by decide)

theorem getLast?_shortened_ne_zero (start : List Char) (h : '.' ∈ shortened places units) :
    (start ++ shortened places units).getLast? ≠ some '0' := by
  rw [List.getLast?_append_of_ne_nil _ (shortened_ne_nil places units)]
  rcases shortened_cases places units with ⟨-, hshort⟩ | ⟨hne, hshort⟩
  · rw [hshort] at h
    exact absurd h (notMem_digits (by decide) _)
  · rw [hshort, List.getLast?_append_cons, List.getLast?_cons_of_ne_nil hne]
    exact Scalar.getLast?_dropTrailing_ne '0' _

/-- Dropping the zeros at the end and then a point there. -/
theorem dropTrailing_pointed (hplaces : places ≠ 0) (start : List Char) (units : Nat) :
    Scalar.dropTrailing '.' (Scalar.dropTrailing '0' (start ++ pointed places units)) =
      start ++ shortened places units := by
  have hself := Scalar.dropTrailing_eq_self (getLast?_shortened_ne_point start places units)
  rw [pointed, if_neg hplaces, ← List.append_assoc, Scalar.dropTrailing_append_cons (by decide),
    List.append_assoc]
  rcases shortened_cases places units with ⟨hempty, hshort⟩ | ⟨-, hshort⟩ <;> rw [hshort] at hself ⊢
  · rw [hempty, ← List.append_assoc, Scalar.dropTrailing_eq_rdropWhile,
      List.rdropWhile_concat_pos _ _ _ (by decide)]
    exact hself
  · exact hself

/-! ### Reading decimals -/

/-- The value of digits, at least one, with or without a point and more digits after them. -/
def unsigned? (cs : List Char) : Option Rat :=
  let whole := cs.takeWhile Char.isDigit
  if whole.isEmpty then none
  else match cs.dropWhile Char.isDigit with
    | [] => some (Numeral.value whole)
    | c :: fraction =>
      if c = '.' ∧ fraction.all Char.isDigit then
        some (Numeral.value (whole ++ fraction) / 10 ^ fraction.length)
      else none

/-- The exact value of a decimal, which may be negative. -/
def decimal? : List Char → Option Rat
  | '-' :: rest => (unsigned? rest).map (- ·)
  | cs => unsigned? cs

theorem unsigned?_digits (n : Nat) : unsigned? (digits n) = some (n : Rat) := by
  have hdigits : ∀ c ∈ digits n, c.isDigit = true := fun _ hc => isDigit_of_mem_digits hc
  unfold unsigned?
  rw [List.takeWhile_eq_self_iff.mpr hdigits, List.dropWhile_eq_nil_iff.mpr hdigits]
  simp [digits_ne_nil, value_digits]

theorem unsigned?_point (n : Nat) {fraction : List Char} (h : ∀ c ∈ fraction, c.isDigit = true) :
    unsigned? (digits n ++ '.' :: fraction) = some (quantity (digits n ++ '.' :: fraction)) := by
  have hdigits : ∀ c ∈ digits n, c.isDigit = true := fun _ hc => isDigit_of_mem_digits hc
  have hpoint : ('.' :: fraction).takeWhile Char.isDigit = [] ∧
      ('.' :: fraction).dropWhile Char.isDigit = '.' :: fraction := ⟨rfl, rfl⟩
  unfold unsigned?
  rw [quantity_point _ hdigits, List.takeWhile_append_of_pos hdigits,
    List.dropWhile_append_of_pos hdigits, hpoint.1, hpoint.2, List.append_nil]
  simpa [digits_ne_nil] using h

theorem unsigned?_shortened (hplaces : places ≠ 0) (units : Nat) :
    unsigned? (shortened places units) = some (units / 10 ^ places : Rat) := by
  rw [← quantity_shortened hplaces units]
  rcases shortened_cases places units with ⟨-, hshort⟩ | ⟨-, hshort⟩ <;> rw [hshort]
  · rw [unsigned?_digits, quantity_of_digits fun _ hc => isDigit_of_mem_digits hc, value_digits]
  · exact unsigned?_point _ fun _ hc => isDigit_of_mem_fraction hc

theorem decimal?_of_no_dash (h : '-' ∉ cs) : decimal? cs = unsigned? cs := by
  unfold decimal?
  split
  · exact absurd List.mem_cons_self h
  · rfl

/-- The text of a count of units of `10 ^ -places`, with nothing in it that does not count. -/
def canonical (places : Nat) (k : Int) : List Char :=
  sign (k < 0) ++ shortened places k.natAbs

theorem decimal?_canonical (hplaces : places ≠ 0) (k : Int) :
    decimal? (canonical places k) = some (k / 10 ^ places : Rat) := by
  unfold canonical
  by_cases hneg : k < 0
  · have habs : (k.natAbs : Rat) = -k := by rw [Nat.cast_natAbs, abs_of_neg hneg, Int.cast_neg]
    rw [decide_eq_true hneg]
    change (unsigned? (shortened places k.natAbs)).map (- ·) = _
    rw [unsigned?_shortened hplaces, Option.map_some, habs, neg_div, neg_neg]
  · have habs : (k.natAbs : Rat) = k := by rw [Nat.cast_natAbs, abs_of_nonneg (not_lt.mp hneg)]
    rw [decide_eq_false hneg]
    change decimal? (shortened places k.natAbs) = _
    rw [decimal?_of_no_dash (dash_notMem_shortened places _), unsigned?_shortened hplaces, habs]

/-- A decimal without what does not count: no power of ten, no zero in front of a whole part or at
the end of a fraction, no point without a fraction, and no sign but that of a negative value. -/
structure IsCanonical (cs : List Char) : Prop where
  nonempty : cs ≠ []
  noPower : 'e' ∉ cs ∧ 'E' ∉ cs
  noFirstZero : ∀ d rest, cs.dropWhile (· = '-') = '0' :: d :: rest → d = '.'
  noLastPoint : cs.getLast? ≠ some '.'
  noLastZero : '.' ∈ cs → cs.getLast? ≠ some '0'
  negative : '-' ∈ cs → ∃ q < 0, decimal? cs = some q

theorem eq_dash_of_mem_sign {negative : Bool} (h : c ∈ sign negative) : c = '-' := by
  cases negative with
  | false => cases h
  | true => exact List.mem_singleton.mp h

theorem dropWhile_canonical (places : Nat) (k : Int) :
    (canonical places k).dropWhile (· = '-') = shortened places k.natAbs := by
  have hsign : ∀ c ∈ sign (decide (k < 0)), decide (c = '-') = true :=
    fun c hc => decide_eq_true (eq_dash_of_mem_sign hc)
  rw [canonical, List.dropWhile_append_of_pos hsign, List.dropWhile_eq_self_iff]
  intro hpos hdash
  exact dash_notMem_shortened places _ (of_decide_eq_true hdash ▸ List.getElem_mem hpos)

theorem mem_canonical {k : Int} (h : c ∈ canonical places k) :
    c.isDigit = true ∨ c = '.' ∨ c = '-' ∧ k < 0 := by
  rcases List.mem_append.mp h with h | h
  · by_cases hneg : k < 0
    · rw [decide_eq_true hneg] at h
      exact Or.inr (Or.inr ⟨List.mem_singleton.mp h, hneg⟩)
    · rw [decide_eq_false hneg] at h
      cases h
  · exact (isDigit_or_eq_point_of_mem_shortened h).imp_right Or.inl

theorem isCanonical_canonical (hplaces : places ≠ 0) (k : Int) :
    IsCanonical (canonical places k) where
  nonempty h := shortened_ne_nil places _ (List.append_eq_nil_iff.mp h).2
  noPower := by
    constructor <;> intro h <;> rcases mem_canonical h with h | h | ⟨h, -⟩ <;> revert h <;> decide
  noFirstZero d rest h := by
    rw [dropWhile_canonical] at h
    exact eq_point_of_shortened_eq h
  noLastPoint := getLast?_shortened_ne_point _ places _
  noLastZero h := by
    refine getLast?_shortened_ne_zero _ ((List.mem_append.mp h).resolve_left fun hsign => ?_)
    exact absurd (eq_dash_of_mem_sign hsign) (by decide)
  negative h := by
    rcases mem_canonical h with h | h | ⟨-, hneg⟩
    · exact absurd h (by decide)
    · exact absurd h (by decide)
    · refine ⟨_, ?_, decimal?_canonical hplaces k⟩
      exact div_neg_of_neg_of_pos (by exact_mod_cast hneg) (by positivity)

end Decimal

namespace Rational

variable {x : Rat}

/-! ### Fixed places -/

theorem reading_of_nonneg (h : 0 ≤ x) : Scalar.reading x = .finite false x.num.natAbs x.den := by
  have hsign : decide (x.num < 0) = false := decide_eq_false (not_lt.mpr (Rat.num_nonneg.mpr h))
  change Reading.finite (decide (x.num < 0)) x.num.natAbs x.den = _
  rw [hsign]

theorem quantity_fixed (h : 0 ≤ x) (places : Nat) :
    Decimal.quantity (Scalar.fixed places x).toList =
      (Scalar.reading x).units places / 10 ^ places := by
  rw [Scalar.toList_fixed places (reading_of_nonneg h), Decimal.quantity_pointed]

theorem cast_pow10 (n : Nat) : ((pow10 n : Nat) : Rat) = 10 ^ n := by
  exact_mod_cast rfl

theorem natAbs_num_div_den (x : Rat) : (x.num.natAbs : Rat) / x.den = |x| := by
  conv_rhs => rw [← Rat.num_div_den x, abs_div, Nat.abs_cast]
  rw [Nat.cast_natAbs, Int.cast_abs]

theorem units_eq (x : Rat) (places : Nat) : (Scalar.reading x).units places =
    Decimal.roundDiv .toEven (x.num.natAbs * pow10 places) x.den := rfl

theorem abs_units_sub_le (x : Rat) (places : Nat) :
    |((Scalar.reading x).units places : Rat) / 10 ^ places - (|x|)| ≤ 1 / (2 * 10 ^ places) := by
  have hround := abs_roundDiv_sub_le .toEven (x.num.natAbs * pow10 places) x.den x.den_pos
  have hscaled : ((x.num.natAbs * pow10 places : Nat) : Rat) / x.den = |x| * 10 ^ places := by
    rw [← natAbs_num_div_den, div_mul_eq_mul_div, Nat.cast_mul, cast_pow10]
  rw [hscaled, ← units_eq] at hround
  exact abs_div_pow_sub_le hround

/-- More than half a unit of the last place is not printed as zero. -/
theorem units_pos {places : Nat} (h : 1 / (2 * 10 ^ places) < x) :
    0 < (Scalar.reading x).units places := by
  have hpos : 0 < x := lt_trans (by positivity) h
  have hden : (0 : Rat) < x.den := by exact_mod_cast x.den_pos
  rw [← abs_of_pos hpos, ← natAbs_num_div_den, div_lt_div_iff₀ (by positivity) hden, one_mul] at h
  have hhalf : x.den < 2 * (x.num.natAbs * pow10 places) := by
    rw [Nat.mul_left_comm]
    exact_mod_cast h
  rw [units_eq]
  exact roundDiv_pos .toEven hhalf

/-- The texts of two values tell them apart where these lie more than a unit of the last place
apart, whatever stands behind a dash after them. -/
theorem abs_sub_le_of_fixedChars {places : Nat} {y : Rat} {rest rest' : List Char}
    (h : Decimal.fixedChars places (Scalar.reading x) ++ '-' :: rest =
      Decimal.fixedChars places (Scalar.reading y) ++ '-' :: rest') :
    |x - y| ≤ 1 / 10 ^ places := by
  change Decimal.sign (x.num < 0) ++ Decimal.pointed places ((Scalar.reading x).units places) ++
      '-' :: rest =
    Decimal.sign (y.num < 0) ++ Decimal.pointed places ((Scalar.reading y).units places) ++
      '-' :: rest' at h
  rw [List.append_assoc, List.append_assoc] at h
  obtain ⟨hsign, hunits⟩ := Decimal.sign_pointed_inj h
  have hsame : |x - y| = |(|x| - |y|)| := by
    rw [decide_eq_decide, Rat.num_neg, Rat.num_neg] at hsign
    by_cases hx : x < 0
    · rw [abs_of_neg hx, abs_of_neg (hsign.mp hx), neg_sub_neg, abs_sub_comm]
    · rw [abs_of_nonneg (not_lt.mp hx), abs_of_nonneg (not_lt.mp (mt hsign.mpr hx))]
  have hx := abs_units_sub_le x places
  have hy := abs_units_sub_le y places
  rw [hunits, abs_sub_comm] at hx
  calc |x - y| = |(|x| - |y|)| := hsame
    _ ≤ 1 / (2 * 10 ^ places) + 1 / (2 * 10 ^ places) :=
      (abs_sub_le _ _ _).trans (add_le_add hx hy)
    _ = 1 / 10 ^ places := by ring

/-! ### All places -/

/-- The places that printing takes are enough. -/
theorem units_print {n : Nat} (hnonneg : 0 ≤ x) (h : x.den ∣ 10 ^ n) :
    pow10 (Nat.log2 x.den + 1) % x.den = 0 ∧
      ((x.num.natAbs * pow10 (Nat.log2 x.den + 1) / x.den : Nat) : Rat) /
        10 ^ (Nat.log2 x.den + 1) = x := by
  have hdvd : x.den ∣ pow10 (Nat.log2 x.den + 1) :=
    (Decimal.dvd_pow_log2 h).trans (Nat.pow_dvd_pow 10 (Nat.le_succ _))
  have hden : (x.den : Rat) ≠ 0 := by exact_mod_cast x.den_ne_zero
  refine ⟨Nat.mod_eq_zero_of_dvd hdvd, ?_⟩
  rw [Nat.cast_div (Dvd.dvd.mul_left hdvd _) hden, Nat.cast_mul]
  have hpos : (10 : Rat) ^ (Nat.log2 x.den + 1) ≠ 0 := by positivity
  rw [cast_pow10, mul_div_right_comm, mul_div_cancel_right₀ _ hpos, natAbs_num_div_den,
    abs_of_nonneg hnonneg]

theorem quantity_print {n : Nat} (hnonneg : 0 ≤ x) (h : x.den ∣ 10 ^ n) :
    Decimal.quantity (print x).toList = x := by
  obtain ⟨hfinite, hunits⟩ := units_print hnonneg h
  have hsign : ¬ x.num < 0 := not_lt.mpr (Rat.num_nonneg.mpr hnonneg)
  unfold print
  generalize hplaces : Nat.log2 x.den + 1 = places at hfinite hunits
  dsimp only
  rw [if_pos hfinite]
  generalize x.num.natAbs * pow10 places / x.den = units at hunits
  rw [String.toList_ofList, decide_eq_false hsign]
  exact (Decimal.quantity_shortened (by omega) units).trans hunits

end Rational

/-! ### Seconds -/

namespace Reading

variable {negative : Bool} {num den : Nat}

/-- The exact value of a finite number. -/
def value : Reading → Rat
  | .finite negative num den => if negative then -(num / den) else num / den
  | _ => 0

/-- The units that are printed are those of the value rounded. -/
theorem toEven_value (places : Nat) (hden : 0 < den) :
    Rational.toEven ((finite negative num den).value * 10 ^ places) =
      if negative then -((finite negative num den).units places : Int)
      else (finite negative num den).units places := by
  have hscaled : (num : Rat) / den * 10 ^ places = (num * pow10 places : Nat) / den := by
    rw [div_mul_eq_mul_div, Nat.cast_mul, Rational.cast_pow10]
  have hround := Rational.toEven_div (num * pow10 places) den hden
  cases negative with
  | false =>
    change Rational.toEven ((num : Rat) / den * 10 ^ places) = _
    rw [hscaled, hround]
    rfl
  | true =>
    change Rational.toEven (-((num : Rat) / den) * 10 ^ places) = _
    rw [neg_mul, hscaled, Rational.toEven_neg, hround]
    rfl

end Reading

namespace Scalar

variable {α : Type} [Scalar α] {x y : α} {negative : Bool} {num den : Nat}

/-- What is printed depends on the rounded value only. -/
theorem toList_seconds (h : reading x = .finite negative num den) (hden : 0 < den) :
    (seconds x).toList =
      Decimal.canonical 6 (Rational.toEven ((reading x).value * 10 ^ 6)) := by
  have hdropped : dropTrailing '.' (dropTrailing '0' (Decimal.fixedChars 6 (reading x))) =
      Decimal.sign negative ++ Decimal.shortened 6 ((reading x).units 6) := by
    rw [h]
    exact Decimal.dropTrailing_pointed (by decide) _ _
  have hrounded : Rational.toEven ((reading x).value * 10 ^ 6) =
      if negative then -((reading x).units 6 : Int) else (reading x).units 6 := by
    rw [h]
    exact Reading.toEven_value 6 hden
  rw [hrounded]
  generalize (reading x).units 6 = units at hdropped ⊢
  have hne := Decimal.shortened_ne_nil 6 units
  have hdash := Decimal.dash_notMem_shortened 6 units
  have hzero : Decimal.shortened 6 units = ['0'] ↔ units = 0 :=
    Decimal.shortened_eq_zero_iff (by decide)
  rw [seconds, hdropped, Decimal.canonical]
  cases negative with
  | false =>
    have hsigned : ¬ (Decimal.shortened 6 units = [] ∨ Decimal.shortened 6 units = ['-'] ∨
        Decimal.shortened 6 units = ['-', '0']) := by
      rintro (hnil | hsign | hsign)
      · exact hne hnil
      · exact hdash (hsign ▸ List.mem_cons_self)
      · exact hdash (hsign ▸ List.mem_cons_self)
    have hplain : Decimal.sign false ++ Decimal.shortened 6 units = Decimal.shortened 6 units := rfl
    rw [hplain, if_neg hsigned, String.toList_ofList]
    simp [Decimal.sign]
  | true =>
    by_cases hunits : units = 0
    · have htext := hzero.mpr hunits
      rw [hunits] at htext ⊢
      rw [htext]
      simp [Decimal.sign, htext]
    · have hnumber := mt hzero.mp hunits
      have hnegative : -(units : Int) < 0 := by omega
      rw [if_neg (by simp [Decimal.sign, hne, hnumber]), String.toList_ofList, if_pos rfl,
        decide_eq_true hnegative, Int.natAbs_neg, Int.natAbs_natCast]

/-- Seconds read back as the value with six decimals. -/
theorem decimal?_seconds (h : reading x = .finite negative num den) (hden : 0 < den) :
    Decimal.decimal? (seconds x).toList = some (Rational.toDecimals 6 (reading x).value) := by
  rw [toList_seconds h hden, Decimal.decimal?_canonical (by decide)]
  rfl

theorem isCanonical_seconds (h : reading x = .finite negative num den) (hden : 0 < den) :
    Decimal.IsCanonical (seconds x).toList := by
  rw [toList_seconds h hden]
  exact Decimal.isCanonical_canonical (by decide) _

theorem seconds_eq_iff {num' den' : Nat} {negative' : Bool}
    (hx : reading x = .finite negative num den) (hden : 0 < den)
    (hy : reading y = .finite negative' num' den') (hden' : 0 < den') :
    seconds x = seconds y ↔
      Rational.toDecimals 6 (reading x).value = Rational.toDecimals 6 (reading y).value := by
  constructor
  · intro h
    have hread := decimal?_seconds hx hden
    rw [h, decimal?_seconds hy hden'] at hread
    exact (Option.some.inj hread).symm
  · intro h
    apply String.toList_injective
    rw [toList_seconds hx hden, toList_seconds hy hden', Rational.toDecimals_inj.mp h]

end Scalar

end Montage
