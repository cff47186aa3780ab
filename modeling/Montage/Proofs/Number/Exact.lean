import Mathlib
import Montage.Number.Decimal
import Montage.Number.Scalar
import Montage.Proofs.Number.Lawful

/-!
Exact arithmetic as a kind of number: every value is finite and no operation rounds.
-/

namespace Montage.Rational

def nearest (x : Rat) : Rat :=
  let whole := Decimal.roundDiv .up x.num.natAbs x.den
  Rat.ofInt (if x.num < 0 then -(whole : Int) else whole)

/-- The value as a terminating decimal, or else as a fraction. -/
def print (x : Rat) : String :=
  let places := Nat.log2 x.den + 1
  if pow10 places % x.den = 0 then
    let units := x.num.natAbs * pow10 places / x.den
    let fraction := (Decimal.padded places (units % pow10 places)).reverse.dropWhile (· = '0')
    let body := Decimal.digits (units / pow10 places) ++
      (if fraction.isEmpty then [] else '.' :: fraction.reverse)
    String.ofList (Decimal.sign (x.num < 0) ++ body)
  else
    String.ofList (Decimal.sign (x.num < 0) ++ Decimal.digits x.num.natAbs ++
      '/' :: Decimal.digits x.den)

instance : Scalar Rat where
  zero := Rat.ofInt 0
  one := Rat.ofInt 1
  natCast n := Rat.ofInt n
  ofScientific := Rat.ofScientific
  decidableLE := inferInstance
  decidableLT := inferInstance
  precedes x y := decide (x ≤ y)
  nearest := nearest
  ceiling x := Rat.ofInt x.ceil
  reading x := .finite (x.num < 0) x.num.natAbs x.den
  shortest := print

end Montage.Rational

/-! Exact arithmetic: every law holds, and rounding to hundredths moves by at most half of one.
Rounding halves to the even neighbour is monotone. -/
namespace Montage.Rational

theorem isFinite_eq_true (x : Rat) : Scalar.isFinite x = true := rfl

theorem max_eq (x y : Rat) : Scalar.max x y = max x y := by
  unfold Scalar.max
  rcases le_total x y with h | h
  · rw [max_eq_right h]
    simp only [le_refl, not_true_eq_false, if_false, or_false]
    exact if_neg (not_lt.mpr h)
  · rw [max_eq_left h]
    simp only [le_refl, not_true_eq_false, if_false, or_false]
    split
    · rfl
    · exact le_antisymm h (not_lt.mp (by assumption))

theorem min_eq (x y : Rat) : Scalar.min x y = min x y := by
  unfold Scalar.min
  simp only [le_refl, not_true_eq_false, if_false, or_false]
  split
  · rename_i h
    exact (min_eq_left (le_of_lt h)).symm
  · rename_i h
    exact (min_eq_right (not_lt.mp h)).symm

theorem maximum_eq (start : Rat) (xs : List Rat) : Scalar.maximum start xs = xs.foldl max start := by
  have hmax : (Scalar.max : Rat → Rat → Rat) = max := by
    funext x y
    exact max_eq x y
  rw [Scalar.maximum, hmax]

theorem sum_eq (xs : List Rat) : Scalar.sum xs = xs.sum :=
  List.sum_eq_foldl.symm

instance : LawfulScalar Rat where
  le_trans := le_trans
  lt_iff_le_not_ge := lt_iff_le_not_ge
  le_self_left _ := le_refl _
  le_self_right _ := le_refl _
  decimal_nonneg m e := by
    change (0 : Rat) ≤ Rat.ofScientific m true e
    rw [Rat.ofScientific_true_def, Rat.mkRat_eq_div]
    positivity
  add_lt_of_le {x y z e} hxy h := by
    change x + e < z
    exact lt_of_le_of_lt (add_le_add_left hxy e) h
  lt_sub_of_le {x y z e} hxy h := by
    change z < y - e
    exact lt_of_lt_of_le h (sub_le_sub_right hxy e)
  lt_of_add_lt {x z e} he h := by
    change (0 : Rat) ≤ e at he
    change x + e < z at h
    change x < z
    linarith
  lt_of_lt_sub {x z e} he h := by
    change (0 : Rat) ≤ e at he
    change z < x - e at h
    change z < x
    linarith
  sub_pos := sub_pos
  precedes_trans x y z hxy hyz := by
    simp only [Scalar.precedes, decide_eq_true_eq] at *
    exact le_trans hxy hyz
  precedes_total x y := by
    simp only [Scalar.precedes, Bool.or_eq_true, decide_eq_true_eq]
    exact le_total x y

/-- Rounding goes down from at most a half, and up from at least a half. -/
theorem roundDiv_cases (tie : Decimal.Tie) (n d : Nat) :
    Decimal.roundDiv tie n d = n / d ∧ 2 * (n % d) ≤ d ∨
      Decimal.roundDiv tie n d = n / d + 1 ∧ d ≤ 2 * (n % d) := by
  unfold Decimal.roundDiv
  dsimp only
  split
  · exact Or.inl ⟨rfl, by omega⟩
  · split
    · exact Or.inr ⟨rfl, by omega⟩
    · cases tie with
      | up => exact Or.inr ⟨rfl, by omega⟩
      | toEven =>
        rcases Nat.mod_two_eq_zero_or_one (n / d) with heven | hodd
        · exact Or.inl ⟨by dsimp only; omega, by omega⟩
        · exact Or.inr ⟨by dsimp only; omega, by omega⟩

theorem roundDiv_pos (tie : Decimal.Tie) {n d : Nat} (h : d < 2 * n) :
    0 < Decimal.roundDiv tie n d := by
  rcases roundDiv_cases tie n d with ⟨hdown, hhalf⟩ | ⟨hup, -⟩
  · rw [hdown]
    by_contra hzero
    have hquot : n / d = 0 := by omega
    have hsplit := Nat.div_add_mod n d
    rw [hquot, Nat.mul_zero, Nat.zero_add] at hsplit
    omega
  · rw [hup]
    exact Nat.succ_pos _

/-- The nearest whole number to a fraction is at most a half away. -/
theorem abs_roundDiv_sub_le (tie : Decimal.Tie) (n d : Nat) (hd : 0 < d) :
    |(Decimal.roundDiv tie n d : Rat) - n / d| ≤ 1 / 2 := by
  have hpos : (0 : Rat) < d := by exact_mod_cast hd
  have hn : (n : Rat) = d * (n / d : Nat) + (n % d : Nat) := by
    exact_mod_cast (Nat.div_add_mod n d).symm
  have hquot : (n : Rat) / d = (n / d : Nat) + (n % d : Nat) / d := by
    rw [hn]
    field_simp
  have hnonneg : (0 : Rat) ≤ (n % d : Nat) / d := by positivity
  have hle : ((n % d : Nat) : Rat) / d ≤ 1 := by
    rw [div_le_one hpos]
    exact_mod_cast Nat.le_of_lt (Nat.mod_lt n hd)
  rw [hquot, abs_le]
  rcases roundDiv_cases tie n d with ⟨hdown, hhalf⟩ | ⟨hup, hhalf⟩
  · have hsmall : ((n % d : Nat) : Rat) / d ≤ 1 / 2 := by
      rw [div_le_div_iff₀ hpos (by norm_num), one_mul, mul_comm]
      exact_mod_cast hhalf
    rw [hdown]
    constructor <;> linarith
  · have hlarge : (1 : Rat) / 2 ≤ ((n % d : Nat) : Rat) / d := by
      rw [div_le_div_iff₀ (by norm_num) hpos, one_mul, mul_comm]
      exact_mod_cast hhalf
    rw [hup]
    push_cast
    constructor <;> linarith

theorem abs_nearest_sub_le (x : Rat) : |nearest x - x| ≤ 1 / 2 := by
  have h := abs_roundDiv_sub_le .up x.num.natAbs x.den x.den_pos
  have hx : x = x.num / x.den := (Rat.num_div_den x).symm
  by_cases hneg : x.num < 0
  · have habs : ((x.num.natAbs : Nat) : Rat) = -(x.num : Rat) := by
      rw [Nat.cast_natAbs, abs_of_neg hneg, Int.cast_neg]
    have hn : nearest x = -(Decimal.roundDiv .up x.num.natAbs x.den : Rat) := by
      simp only [nearest, hneg, if_true, Rat.ofInt_eq_cast, Int.cast_neg, Int.cast_natCast]
    rw [hn]
    rw [habs, neg_div, ← hx] at h
    rw [abs_le] at h ⊢
    constructor <;> linarith [h.1, h.2]
  · have habs : ((x.num.natAbs : Nat) : Rat) = (x.num : Rat) := by
      rw [Nat.cast_natAbs, abs_of_nonneg (not_lt.mp hneg)]
    have hn : nearest x = (Decimal.roundDiv .up x.num.natAbs x.den : Rat) := by
      simp only [nearest, hneg, if_false, Rat.ofInt_eq_cast, Int.cast_natCast]
    rw [hn]
    rw [habs, ← hx] at h
    exact h

theorem exists_int_nearest (x : Rat) : ∃ whole : Int, nearest x = whole :=
  ⟨_, Rat.ofInt_eq_cast _⟩

/-- Rounding goes past no whole number. -/
theorem le_nearest {x : Rat} {m : Int} (h : (m : Rat) ≤ x) : (m : Rat) ≤ nearest x := by
  obtain ⟨whole, hwhole⟩ := exists_int_nearest x
  have hclose := (abs_le.mp (abs_nearest_sub_le x)).1
  rw [hwhole] at hclose ⊢
  have hlt : (m : Rat) < ((whole + 1 : Int) : Rat) := by
    push_cast
    linarith
  have hle : m < whole + 1 := by exact_mod_cast hlt
  exact_mod_cast Int.lt_add_one_iff.mp hle

theorem nearest_le {x : Rat} {m : Int} (h : x ≤ m) : nearest x ≤ m := by
  obtain ⟨whole, hwhole⟩ := exists_int_nearest x
  have hclose := (abs_le.mp (abs_nearest_sub_le x)).2
  rw [hwhole] at hclose ⊢
  have hlt : (whole : Rat) < ((m + 1 : Int) : Rat) := by
    push_cast
    linarith
  have hle : whole < m + 1 := by exact_mod_cast hlt
  exact_mod_cast Int.lt_add_one_iff.mp hle

theorem powerFrom_eq (acc x : Rat) (n : Nat) : Scalar.powerFrom acc x n = acc * x ^ n := by
  fun_induction Scalar.powerFrom acc x n with
  | case1 acc x n next hsmall =>
    obtain rfl | rfl : n = 0 ∨ n = 1 := by omega
    · change acc = _
      rw [pow_zero, mul_one]
    · change acc * x = _
      rw [pow_one]
  | case2 acc x n next hlarge ih =>
    rw [ih]
    have hpower : (x * x) ^ (n / 2) = x ^ (2 * (n / 2)) := by
      rw [← pow_two, ← pow_mul]
    rcases Nat.mod_two_eq_zero_or_one n with heven | hodd
    · have hnext : next = acc := if_neg (by omega)
      rw [hnext, hpower, show 2 * (n / 2) = n by omega]
    · have hnext : next = acc * x := if_pos hodd
      rw [hnext, hpower, mul_assoc, ← pow_succ', show 2 * (n / 2) + 1 = n by omega]

theorem roundTo_eq (x : Rat) (places : Nat) :
    Scalar.roundTo x places = nearest (x * 10 ^ places) / 10 ^ places := by
  have hten : (10.0 : Rat) = 10 := by norm_num
  have hpower : Scalar.powerFrom (1 : Rat) 10.0 (places : Int).natAbs = 10 ^ places := by
    rw [powerFrom_eq, Int.natAbs_natCast, one_mul]
    exact congrArg (· ^ places) hten
  have hsign : ¬ (places : Int) < 0 := by omega
  simp only [Scalar.roundTo, hpower, hsign, if_false]
  rfl

/-- Half of one, at some place after the point. -/
theorem abs_div_pow_sub_le {whole x : Rat} {places : Nat} (h : |whole - x * 10 ^ places| ≤ 1 / 2) :
    |whole / 10 ^ places - x| ≤ 1 / (2 * 10 ^ places) := by
  have hpos : (0 : Rat) < 10 ^ places := by positivity
  have hdifference : whole / 10 ^ places - x = (whole - x * 10 ^ places) / 10 ^ places := by
    field_simp
  rw [hdifference, abs_div, abs_of_pos hpos]
  calc |whole - x * 10 ^ places| / 10 ^ places
      ≤ 1 / 2 / 10 ^ places := div_le_div_of_nonneg_right h (le_of_lt hpos)
    _ = 1 / (2 * 10 ^ places) := div_div _ _ _

theorem abs_roundTo_sub_le (x : Rat) (places : Nat) :
    |Scalar.roundTo x places - x| ≤ 1 / (2 * 10 ^ places) := by
  rw [roundTo_eq]
  exact abs_div_pow_sub_le (abs_nearest_sub_le _)

theorem abs_roundTo_two_sub_le (x : Rat) : |Scalar.roundTo x 2 - x| ≤ 1 / 200 := by
  have h := abs_roundTo_sub_le x 2
  norm_num at h ⊢
  exact h

/-! ### Halves to even -/

/-- The whole number next to a value; of two at the same distance, the even one. -/
structure NearestEven (x : Rat) (k : Int) : Prop where
  close : |x - k| ≤ 1 / 2
  even : |x - k| = 1 / 2 → Even k

namespace NearestEven

variable {x y : Rat} {k m : Int}

theorem mono (hx : NearestEven x k) (hy : NearestEven y m) (h : x ≤ y) : k ≤ m := by
  by_contra hless
  have hnext : (m : Rat) + 1 ≤ k := by exact_mod_cast Int.not_le.mp hless
  have hlow := (abs_le.mp hx.close).1
  have hhigh := (abs_le.mp hy.close).2
  -- Both values are the half between two neighbours, and each claims to go to the even one.
  have hdown : x - k = -(1 / 2) := by linarith
  have hup : y - m = 1 / 2 := by linarith
  have hneighbours : k = m + 1 := by exact_mod_cast (show (k : Rat) = m + 1 by linarith)
  have hk : Even k := hx.even (by rw [hdown, abs_neg, abs_of_pos one_half_pos])
  have hm : Even m := hy.even (by rw [hup, abs_of_pos one_half_pos])
  rw [hneighbours, Int.even_add_one] at hk
  exact hk hm

theorem unique (hk : NearestEven x k) (hm : NearestEven x m) : k = m :=
  le_antisymm (hk.mono hm (le_refl x)) (hm.mono hk (le_refl x))

theorem neg (h : NearestEven x k) : NearestEven (-x) (-k) := by
  have hdistance : |-x - (-k : Int)| = |x - k| := by
    rw [Int.cast_neg, neg_sub_neg, abs_sub_comm]
  exact ⟨hdistance ▸ h.close, fun hhalf => (h.even (hdistance ▸ hhalf)).neg⟩

end NearestEven

/-- The whole number next to `x`; a half goes to the even neighbour. -/
def toEven (x : Rat) : Int :=
  if Int.fract x < 1 / 2 then ⌊x⌋
  else if 1 / 2 < Int.fract x then ⌊x⌋ + 1
  else if Even ⌊x⌋ then ⌊x⌋
  else ⌊x⌋ + 1

theorem nearestEven_toEven (x : Rat) : NearestEven x (toEven x) := by
  have hdown : |x - ⌊x⌋| = Int.fract x := abs_of_nonneg (Int.fract_nonneg x)
  have hup : |x - (⌊x⌋ + 1 : Int)| = 1 - Int.fract x := by
    rw [abs_sub_comm, Int.cast_add, Int.cast_one, add_sub_right_comm, ← neg_sub, Int.self_sub_floor,
      neg_add_eq_sub, abs_of_pos (sub_pos.mpr (Int.fract_lt_one x))]
  unfold toEven
  split_ifs with hlow hhigh heven
  · exact ⟨by linarith, fun hhalf => by linarith⟩
  · exact ⟨by linarith, fun hhalf => by linarith⟩
  · exact ⟨by linarith, fun _ => heven⟩
  · exact ⟨by linarith, fun _ => Int.even_add_one.mpr heven⟩

theorem toEven_eq {x : Rat} {k : Int} (h : NearestEven x k) : toEven x = k :=
  (nearestEven_toEven x).unique h

theorem toEven_neg (x : Rat) : toEven (-x) = -toEven x :=
  toEven_eq (nearestEven_toEven x).neg

/-- The quotient of whole numbers, by its remainder. -/
theorem toEven_div (n d : Nat) (hd : 0 < d) :
    toEven (n / d) = Decimal.roundDiv .toEven n d := by
  have hpos : (0 : Rat) < d := by exact_mod_cast hd
  have hfloor : ⌊(n : Rat) / d⌋ = (n / d : Nat) := Rat.floor_natCast_div_natCast n d
  have hfract : Int.fract ((n : Rat) / d) = (n % d : Nat) / d :=
    Int.fract_div_natCast_eq_div_natCast_mod
  have hlow : ((n % d : Nat) : Rat) / d < 1 / 2 ↔ 2 * (n % d) < d := by
    rw [div_lt_div_iff₀ hpos two_pos, one_mul, mul_comm]
    exact_mod_cast Iff.rfl
  have hhigh : 1 / 2 < ((n % d : Nat) : Rat) / d ↔ d < 2 * (n % d) := by
    rw [div_lt_div_iff₀ two_pos hpos, one_mul, mul_comm]
    exact_mod_cast Iff.rfl
  have heven : Even ((n / d : Nat) : Int) ↔ n / d % 2 = 0 := by
    rw [Int.even_coe_nat, Nat.even_iff]
  simp only [toEven, Decimal.roundDiv, hfloor, hfract, hlow, hhigh, heven]
  split_ifs <;> push_cast <;> omega

/-- The value with some decimals; a half goes to the even neighbour. -/
def toDecimals (places : Nat) (x : Rat) : Rat :=
  toEven (x * 10 ^ places) / 10 ^ places

theorem toDecimals_mono (places : Nat) : Monotone (toDecimals places) := by
  intro x y h
  have hpos : (0 : Rat) < 10 ^ places := by positivity
  have hwhole : toEven (x * 10 ^ places) ≤ toEven (y * 10 ^ places) :=
    (nearestEven_toEven _).mono (nearestEven_toEven _) (mul_le_mul_of_nonneg_right h hpos.le)
  exact div_le_div_of_nonneg_right (by exact_mod_cast hwhole) hpos.le

theorem toDecimals_inj {places : Nat} {x y : Rat} :
    toDecimals places x = toDecimals places y ↔
      toEven (x * 10 ^ places) = toEven (y * 10 ^ places) := by
  have hne : (10 : Rat) ^ places ≠ 0 := by positivity
  rw [toDecimals, toDecimals, div_left_inj' hne, Int.cast_inj]

end Montage.Rational
