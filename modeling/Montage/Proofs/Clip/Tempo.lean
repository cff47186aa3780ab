import Montage.Clip.Basic
import Montage.Proofs.Edit.Normal
import Montage.Proofs.Number.RationalText

/-! A change of tempo in steps. Equal steps bring the rate into the band between one half and two,
and the last step, which alone is rounded, makes the product good to one part in ten thousand. -/
namespace Montage.Tempo

open Rational (nearest)

variable {x r : Rat} {fuel : Nat}

/-! ### The last step -/

theorem roundTo_four_eq (x : Rat) : Scalar.roundTo x 4 = nearest (x * 10000) / 10000 := by
  have h := Rational.roundTo_eq x 4
  norm_num at h
  exact h

theorem abs_roundTo_four_sub_le (x : Rat) : |Scalar.roundTo x 4 - x| ≤ 1 / 20000 := by
  have h := Rational.abs_roundTo_sub_le x 4
  norm_num at h ⊢
  exact h

/-- Rounding keeps the rest in the band. -/
theorem roundTo_four_bounds (hlow : 1 / 2 ≤ x) (hhigh : x ≤ 2) :
    1 / 2 ≤ Scalar.roundTo x 4 ∧ Scalar.roundTo x 4 ≤ 2 := by
  have hleast := Rational.le_nearest (x := x * 10000) (m := 5000) (by push_cast; linarith)
  have hmost := Rational.nearest_le (x := x * 10000) (m := 20000) (by push_cast; linarith)
  push_cast at hleast hmost
  rw [roundTo_four_eq]
  constructor <;> linarith

theorem den_roundTo_four_dvd (x : Rat) : (Scalar.roundTo x 4).den ∣ 10 ^ 4 := by
  obtain ⟨whole, hwhole⟩ := Rational.exists_int_nearest (x * 10000)
  have hfraction : Scalar.roundTo x 4 = Rat.divInt whole ((10 ^ 4 : Nat) : Int) := by
    rw [roundTo_four_eq, hwhole, Rat.divInt_eq_div]
    norm_num
  rw [hfraction]
  exact Int.natCast_dvd_natCast.mp (Rat.den_dvd _ _)

/-! ### The two loops -/

section Loops

variable {α : Type} [Scalar α] {rest : α} {steps others : List α}

/-- The steps of the second loop: as long as the rest is below the band it is doubled, and then it
is the last step itself. -/
inductive Raises : α → List α → Prop
  | stop {rest : α} (h : ¬ rest < 0.5) : Raises rest [Scalar.roundTo rest 4]
  | step {rest : α} {steps : List α} (h : rest < 0.5) (hrest : Raises (rest / 0.5) steps) :
      Raises rest (0.5 :: steps)

/-- The steps of both loops: as long as the rest is above the band it is halved, and then the second
loop runs on it. -/
inductive Lowers : α → List α → Prop
  | stop {rest : α} {steps : List α} (h : ¬ 2.0 < rest) (hrest : Raises rest steps) :
      Lowers rest steps
  | step {rest : α} {steps : List α} (h : 2.0 < rest) (hrest : Lowers (rest / 2.0) steps) :
      Lowers rest (2.0 :: steps)

theorem Raises.unique (h : Raises rest steps) (hothers : Raises rest others) : others = steps := by
  induction h generalizing others with
  | stop h =>
    cases hothers with
    | stop => rfl
    | step hlow => exact absurd hlow h
  | step h _ ih =>
    cases hothers with
    | stop hin => exact absurd h hin
    | step _ hrest => rw [ih hrest]

theorem Lowers.unique (h : Lowers rest steps) (hothers : Lowers rest others) : others = steps := by
  induction h generalizing others with
  | stop h hrest =>
    cases hothers with
    | stop _ hothers => exact hrest.unique hothers
    | step hhigh => exact absurd hhigh h
  | step h _ ih =>
    cases hothers with
    | stop hin => exact absurd h hin
    | step _ hrest => rw [ih hrest]

end Loops

theorem two_eq : (2.0 : Rat) = 2 := by
  norm_num

theorem half_eq : (0.5 : Rat) = 1 / 2 := by
  norm_num

theorem above_band_iff : (2.0 : Rat) < r ↔ 2 < r := by
  rw [two_eq]

theorem below_band_iff : r < (0.5 : Rat) ↔ r < 1 / 2 := by
  rw [half_eq]

theorem stepsFrom_succ (fuel : Nat) (r : Rat) :
    stepsFrom (fuel + 1) r =
      if (2.0 : Rat) < r then 2.0 :: stepsFrom fuel (r / 2.0)
      else if r < 0.5 then 0.5 :: stepsFrom fuel (r / 0.5)
      else [Scalar.roundTo r 4] := rfl

/-- Doubling ends in time. -/
theorem raises_stepsFrom (hlow : (1 / 2) ^ (fuel + 1) ≤ r) (hhigh : r ≤ 2) :
    Raises r (stepsFrom fuel r) := by
  induction fuel generalizing r with
  | zero =>
    rw [zero_add, pow_one] at hlow
    exact .stop (mt below_band_iff.mp (not_lt.mpr hlow))
  | succ fuel ih =>
    rw [stepsFrom_succ, if_neg (mt above_band_iff.mp (not_lt.mpr hhigh))]
    by_cases hslow : r < 0.5
    · rw [if_pos hslow]
      refine .step hslow (ih ?_ ?_)
      · rw [pow_succ] at hlow
        rw [half_eq]
        linarith
      · rw [below_band_iff] at hslow
        rw [half_eq]
        linarith
    · rw [if_neg hslow]
      exact .stop hslow

/-- Halving ends in time, and so does the doubling after it. -/
theorem lowers_stepsFrom (hlow : (1 / 2) ^ (fuel + 1) ≤ r) (hhigh : r ≤ 2 ^ (fuel + 1)) :
    Lowers r (stepsFrom fuel r) := by
  induction fuel generalizing r with
  | zero =>
    rw [zero_add, pow_one] at hhigh
    exact .stop (mt above_band_iff.mp (not_lt.mpr hhigh)) (raises_stepsFrom hlow hhigh)
  | succ fuel ih =>
    by_cases hfast : (2.0 : Rat) < r
    · have hfar := above_band_iff.mp hfast
      rw [stepsFrom_succ, if_pos hfast]
      refine .step hfast (ih ?_ ?_)
      · have hsmall : ((1 : Rat) / 2) ^ (fuel + 1) ≤ 1 := pow_le_one₀ (by norm_num) (by norm_num)
        rw [two_eq]
        linarith
      · rw [pow_succ] at hhigh
        rw [two_eq]
        linarith
    · exact .stop hfast (raises_stepsFrom hlow (not_lt.mp (mt above_band_iff.mpr hfast)))

theorem div_lt_two_pow_log2 (n d : Nat) (hd : 0 < d) :
    (n : Rat) / d < 2 ^ (Nat.log2 (n / d) + 1) := by
  have hlt : n < 2 ^ (Nat.log2 (n / d) + 1) * d :=
    (Nat.div_lt_iff_lt_mul hd).mp Nat.lt_log2_self
  rw [div_lt_iff₀ (by exact_mod_cast hd)]
  exact_mod_cast hlt

/-- The octaves of a positive value reach it from both sides. -/
theorem octaves_bounds (hpos : 0 < r) :
    r ≤ 2 ^ ((Scalar.reading r).octaves + 1) ∧ (1 / 2) ^ ((Scalar.reading r).octaves + 1) ≤ r := by
  have hoctaves : (Scalar.reading r).octaves =
      Nat.log2 (r.num.natAbs / r.den) + Nat.log2 (r.den / r.num.natAbs) + 2 := rfl
  have hnum : 0 < r.num.natAbs := Int.natAbs_pos.mpr (ne_of_gt (Rat.num_pos.mpr hpos))
  have hvalue : r = (r.num.natAbs : Rat) / r.den := by
    rw [Rational.natAbs_num_div_den, abs_of_pos hpos]
  have hinverse : 1 / r = (r.den : Rat) / r.num.natAbs := by
    conv_lhs => rw [hvalue]
    exact one_div_div _ _
  rw [hoctaves]
  constructor
  · calc r = (r.num.natAbs : Rat) / r.den := hvalue
      _ ≤ 2 ^ (Nat.log2 (r.num.natAbs / r.den) + 1) :=
        le_of_lt (div_lt_two_pow_log2 _ _ r.den_pos)
      _ ≤ _ := pow_le_pow_right₀ (by norm_num) (by omega)
  · rw [one_div_pow, one_div_le (by positivity) hpos]
    calc 1 / r = (r.den : Rat) / r.num.natAbs := hinverse
      _ ≤ 2 ^ (Nat.log2 (r.den / r.num.natAbs) + 1) := le_of_lt (div_lt_two_pow_log2 _ _ hnum)
      _ ≤ _ := pow_le_pow_right₀ (by norm_num) (by omega)

theorem lowers_steps (rate : Rat) : Lowers (effectiveRate rate) (steps rate) := by
  obtain ⟨hhigh, hlow⟩ := octaves_bounds (effectiveRate_pos rate)
  exact lowers_stepsFrom hlow hhigh

/-! ### The shape of the steps -/

/-- A rate that is not above the band passes the first loop. -/
theorem Lowers.raises {steps : List Rat} (h : Lowers r steps) (hslow : r ≤ 2) :
    Raises r steps := by
  cases h with
  | stop _ hraises => exact hraises
  | step hhigh => exact absurd hslow (not_le.mpr (above_band_iff.mp hhigh))

/-- One more step before the steps of the rest. -/
theorem eq_pow_succ_mul {step : Rat} {k : Nat} (hstep : step ≠ 0) (h : r / step = step ^ k * x) :
    r = step ^ (k + 1) * x := by
  rw [pow_succ', mul_assoc, ← h, mul_div_cancel₀ _ hstep]

/-- A slow rate is doubled until it is in the band. -/
theorem Raises.shape {steps : List Rat} (h : Raises r steps) (hslow : r ≤ 1) :
    ∃ k x, steps = List.replicate k (1 / 2) ++ [Scalar.roundTo x 4] ∧ r = (1 / 2) ^ k * x ∧
      1 / 2 ≤ x ∧ x ≤ 1 ∧ (0 < k → x < 1) := by
  induction h with
  | @stop r h =>
    have hlow : ¬ r < 1 / 2 := mt below_band_iff.mpr h
    exact ⟨0, r, rfl, by rw [pow_zero, one_mul], not_lt.mp hlow, hslow,
      fun hk => absurd hk (Nat.lt_irrefl 0)⟩
  | @step r steps h _ ih =>
    have hhalf : r / (0.5 : Rat) = r / (1 / 2) := by rw [half_eq]
    have hrest : r / (1 / 2) < 1 := (div_lt_one (by norm_num)).mpr (below_band_iff.mp h)
    obtain ⟨k, x, rfl, hproduct, hleast, hone, hstrict⟩ := ih (hhalf.trans_le (le_of_lt hrest))
    replace hproduct : r / (1 / 2) = (1 / 2) ^ k * x := hhalf.symm.trans hproduct
    refine ⟨k + 1, x, ?_, eq_pow_succ_mul (by norm_num) hproduct, hleast, hone, fun _ => ?_⟩
    · rw [List.replicate_succ, List.cons_append, ← half_eq]
    · rcases Nat.eq_zero_or_pos k with rfl | hk
      · rwa [hproduct, pow_zero, one_mul] at hrest
      · exact hstrict hk

/-- A fast rate is halved until it is in the band, and never doubled. -/
theorem Lowers.shape {steps : List Rat} (h : Lowers r steps) (hfast : 1 ≤ r) :
    ∃ k x, steps = List.replicate k 2 ++ [Scalar.roundTo x 4] ∧ r = 2 ^ k * x ∧
      1 ≤ x ∧ x ≤ 2 ∧ (0 < k → 1 < x) := by
  induction h with
  | @stop r steps h hraises =>
    have hhigh : ¬ 2 < r := mt above_band_iff.mpr h
    cases hraises with
    | stop =>
      exact ⟨0, r, rfl, by rw [pow_zero, one_mul], hfast, not_lt.mp hhigh,
        fun hk => absurd hk (Nat.lt_irrefl 0)⟩
    | step hlow =>
      have hlow : r < 1 / 2 := below_band_iff.mp hlow
      linarith
  | @step r steps h _ ih =>
    have hdouble : r / (2.0 : Rat) = r / 2 := by rw [two_eq]
    have hrest : 1 < r / 2 := (one_lt_div (by norm_num)).mpr (above_band_iff.mp h)
    obtain ⟨k, x, rfl, hproduct, hone, htwo, hstrict⟩ := ih (hrest.le.trans_eq hdouble.symm)
    replace hproduct : r / 2 = 2 ^ k * x := hdouble.symm.trans hproduct
    refine ⟨k + 1, x, ?_, eq_pow_succ_mul (by norm_num) hproduct, hone, htwo, fun _ => ?_⟩
    · rw [List.replicate_succ, List.cons_append, ← two_eq]
    · rcases Nat.eq_zero_or_pos k with rfl | hk
      · rwa [hproduct, pow_zero, one_mul] at hrest
      · exact hstrict hk

/-- All steps but the last are alike, and the last is the rounded rest of the rate. Where there is
another step, the rest lies on its side of one. -/
theorem steps_cases (rate : Rat) :
    ∃ k step x, (step = 2 ∧ (0 < k → 1 < x) ∨ step = 1 / 2 ∧ (0 < k → x < 1)) ∧
      steps rate = List.replicate k step ++ [Scalar.roundTo x 4] ∧
      effectiveRate rate = step ^ k * x ∧ 1 / 2 ≤ x ∧ x ≤ 2 := by
  have hrun := lowers_steps rate
  rcases le_total 1 (effectiveRate rate) with hfast | hslow
  · obtain ⟨k, x, hsteps, hproduct, hone, htwo, hstrict⟩ := hrun.shape hfast
    exact ⟨k, 2, x, Or.inl ⟨rfl, hstrict⟩, hsteps, hproduct, by linarith, htwo⟩
  · obtain ⟨k, x, hsteps, hproduct, hhalf, hone, hstrict⟩ :=
      (hrun.raises (by linarith)).shape hslow
    exact ⟨k, 1 / 2, x, Or.inr ⟨rfl, hstrict⟩, hsteps, hproduct, hhalf, by linarith⟩

/-- Every step is in the band and has four decimals at most. -/
theorem bounds_of_mem_steps {rate step : Rat} (h : step ∈ steps rate) :
    1 / 2 ≤ step ∧ step ≤ 2 ∧ step.den ∣ 10 ^ 4 := by
  obtain ⟨k, equal, x, hequal, hsteps, -, hlow, hhigh⟩ := steps_cases rate
  rw [hsteps] at h
  rcases List.mem_append.mp h with h | h
  · rw [List.eq_of_mem_replicate h]
    rcases hequal with ⟨rfl, -⟩ | ⟨rfl, -⟩
    · exact ⟨by norm_num, by norm_num, by decide +kernel⟩
    · exact ⟨by norm_num, by norm_num, by decide +kernel⟩
  · rw [List.mem_singleton.mp h]
    obtain ⟨hleast, hmost⟩ := roundTo_four_bounds hlow hhigh
    exact ⟨hleast, hmost, den_roundTo_four_dvd x⟩

/-- Steps are printed in full. -/
theorem quantity_shortest_of_mem_steps {rate step : Rat} (h : step ∈ steps rate) :
    Decimal.quantity (Scalar.shortest step).toList = step := by
  obtain ⟨hleast, -, hdvd⟩ := bounds_of_mem_steps h
  exact Rational.quantity_print (by linarith) hdvd

/-! ### Their product -/

/-- How much faster all steps together make the sound. -/
def product (steps : List Rat) : Rat :=
  steps.foldr (· * ·) 1

theorem product_replicate_append (step last : Rat) (k : Nat) :
    product (List.replicate k step ++ [last]) = step ^ k * last := by
  induction k with
  | zero =>
    change last * 1 = step ^ 0 * last
    rw [pow_zero, one_mul, mul_one]
  | succ k ih =>
    change step * product (List.replicate k step ++ [last]) = step ^ (k + 1) * last
    rw [ih, pow_succ', mul_assoc]

theorem product_pos {steps : List Rat} (h : ∀ step ∈ steps, 0 < step) : 0 < product steps := by
  induction steps with
  | nil => exact one_pos
  | cons step rest ih =>
    have hrest := ih fun other hother => h other (List.mem_cons_of_mem step hother)
    exact mul_pos (h step List.mem_cons_self) hrest

theorem product_steps_pos (rate : Rat) : 0 < product (steps rate) := by
  refine product_pos fun step hstep => ?_
  have hleast := (bounds_of_mem_steps hstep).1
  linarith

/-- Sound that is sped up by all steps takes as long as the rate says, up to a part in ten
thousand. -/
theorem abs_inv_product_sub_le (rate : Rat) :
    |1 / product (steps rate) - 1 / effectiveRate rate| ≤ 1 / (10000 * effectiveRate rate) := by
  obtain ⟨k, step, x, hstep, hsteps, hproduct, hlow, hhigh⟩ := steps_cases rate
  have hpower : 0 < step ^ k := by
    rcases hstep with ⟨rfl, -⟩ | ⟨rfl, -⟩ <;> positivity
  have hrounded := abs_roundTo_four_sub_le x
  obtain ⟨hleast, -⟩ := roundTo_four_bounds hlow hhigh
  rw [hsteps, hproduct, product_replicate_append]
  generalize Scalar.roundTo x 4 = y at hrounded hleast
  have hx : 0 < x := by linarith
  have hy : 0 < y := by linarith
  have hdifference : 1 / (step ^ k * y) - 1 / (step ^ k * x) =
      (x - y) / y / (step ^ k * x) := by
    field_simp
  have hpart : |x - y| / y ≤ 1 / 10000 := by
    rw [abs_sub_comm, div_le_iff₀ hy]
    linarith
  calc |1 / (step ^ k * y) - 1 / (step ^ k * x)|
      = |x - y| / y / (step ^ k * x) := by
        rw [hdifference, abs_div, abs_div, abs_of_pos hy, abs_of_pos (mul_pos hpower hx)]
    _ ≤ 1 / 10000 / (step ^ k * x) :=
        div_le_div_of_nonneg_right hpart (le_of_lt (mul_pos hpower hx))
    _ = 1 / (10000 * (step ^ k * x)) := div_div _ _ _

end Montage.Tempo
