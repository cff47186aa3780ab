import Mathlib
import Montage.Number.Floating
import Montage.Proofs.Clip.Tempo

/-! The steps of a change of tempo are as few as can be. Steps between one half and two that number
`n` change the tempo by a factor between `2 ^ -n` and `2 ^ n`, and the equal steps alone come within
the last one of that. -/
namespace Montage.Tempo

/-- The loops run to an end on the rate and give these steps. All are in the band, all but the last
are the same full step, together they make the rate up to a part in ten thousand, and no fewer
factors of the band make it. -/
structure IsFewest (rate : Rat) (steps : List Rat) : Prop where
  run : ∀ out, Lowers rate out ↔ out = steps
  in_band : ∀ step ∈ steps, 1 / 2 ≤ step ∧ step ≤ 2
  alike : (∀ step ∈ steps.dropLast, step = 2) ∨ ∀ step ∈ steps.dropLast, step = 1 / 2
  close : |product steps - rate| ≤ rate / 10000
  fewest : ∀ factors : List ℝ, factors ≠ [] → (∀ factor ∈ factors, 1 / 2 ≤ factor ∧ factor ≤ 2) →
    factors.prod = rate → steps.length ≤ factors.length

variable {rate : Rat}

theorem alike_steps (rate : Rat) :
    (∀ step ∈ (steps rate).dropLast, step = 2) ∨ ∀ step ∈ (steps rate).dropLast, step = 1 / 2 := by
  obtain ⟨k, step, x, hstep, hsteps, -⟩ := steps_cases rate
  rw [hsteps, List.dropLast_concat]
  rcases hstep with ⟨rfl, -⟩ | ⟨rfl, -⟩
  · exact Or.inl fun _ h => List.eq_of_mem_replicate h
  · exact Or.inr fun _ h => List.eq_of_mem_replicate h

/-- Only the last step is rounded, and it is at least one half. -/
theorem abs_product_sub_le (rate : Rat) :
    |product (steps rate) - effectiveRate rate| ≤ effectiveRate rate / 10000 := by
  obtain ⟨k, step, x, hstep, hsteps, hproduct, hlow, -⟩ := steps_cases rate
  have hpower : 0 < step ^ k := by
    rcases hstep with ⟨rfl, -⟩ | ⟨rfl, -⟩ <;> positivity
  have hpart : |Scalar.roundTo x 4 - x| ≤ x / 10000 := by
    have hrounded := abs_roundTo_four_sub_le x
    linarith
  rw [hsteps, hproduct, product_replicate_append]
  calc |step ^ k * Scalar.roundTo x 4 - step ^ k * x|
      = step ^ k * |Scalar.roundTo x 4 - x| := by
        rw [← mul_sub, abs_mul, abs_of_pos hpower]
    _ ≤ step ^ k * (x / 10000) := mul_le_mul_of_nonneg_left hpart (le_of_lt hpower)
    _ = step ^ k * x / 10000 := (mul_div_assoc _ _ _).symm

/-- What factors of the band can make. -/
theorem prod_bounds {factors : List ℝ} (h : ∀ factor ∈ factors, 1 / 2 ≤ factor ∧ factor ≤ 2) :
    (1 / 2) ^ factors.length ≤ factors.prod ∧ factors.prod ≤ 2 ^ factors.length := by
  induction factors with
  | nil => simp
  | cons factor rest ih =>
    obtain ⟨hlow, hhigh⟩ := h factor List.mem_cons_self
    obtain ⟨hleast, hmost⟩ := ih fun other hother => h other (List.mem_cons_of_mem factor hother)
    have hpos : (0 : ℝ) < (1 / 2) ^ rest.length := by positivity
    rw [List.prod_cons, List.length_cons, pow_succ', pow_succ']
    constructor
    · exact mul_le_mul hlow hleast (le_of_lt hpos) (by linarith)
    · exact mul_le_mul hhigh hmost (by linarith) (by norm_num)

theorem length_steps_le {factors : List ℝ} (hne : factors ≠ [])
    (hband : ∀ factor ∈ factors, 1 / 2 ≤ factor ∧ factor ≤ 2)
    (hprod : factors.prod = effectiveRate rate) : (steps rate).length ≤ factors.length := by
  obtain ⟨k, step, x, hstep, hsteps, hproduct, -⟩ := steps_cases rate
  obtain ⟨hleast, hmost⟩ := prod_bounds hband
  rw [hprod, hproduct, Rat.cast_mul, Rat.cast_pow] at hleast hmost
  rw [hsteps, List.length_append, List.length_replicate, List.length_singleton]
  by_contra hfewer
  have hfew : factors.length ≤ k := by omega
  have hsome : 0 < k := lt_of_lt_of_le (List.length_pos_iff.mpr hne) hfew
  -- As many full steps as there are factors already go further than the factors can.
  rcases hstep with ⟨rfl, hstrict⟩ | ⟨rfl, hstrict⟩
  · have hx : (1 : ℝ) < x := by exact_mod_cast hstrict hsome
    have hpower : (2 : ℝ) ^ factors.length ≤ 2 ^ k := pow_le_pow_right₀ (by norm_num) hfew
    have hfar : (2 : ℝ) ^ k < 2 ^ k * x := lt_mul_of_one_lt_right (by positivity) hx
    push_cast at hmost
    linarith
  · have hx : (x : ℝ) < 1 := by exact_mod_cast hstrict hsome
    have hpower : (1 / 2 : ℝ) ^ k ≤ (1 / 2) ^ factors.length :=
      pow_le_pow_of_le_one (by norm_num) (by norm_num) hfew
    have hfar : (1 / 2 : ℝ) ^ k * x < (1 / 2) ^ k := mul_lt_of_lt_one_right (by positivity) hx
    push_cast at hleast
    linarith

theorem isFewest_steps (h : 0 < rate) : IsFewest rate (steps rate) := by
  have hrate := effectiveRate_of_pos h
  have hrun := lowers_steps rate
  have hclose := abs_product_sub_le rate
  rw [hrate] at hrun hclose
  refine ⟨fun out => ⟨fun hout => hrun.unique hout, ?_⟩, fun step hstep => ?_, alike_steps rate,
    hclose, fun factors hne hband hprod => ?_⟩
  · rintro rfl
    exact hrun
  · obtain ⟨hlow, hhigh, -⟩ := bounds_of_mem_steps hstep
    exact ⟨hlow, hhigh⟩
  · exact length_steps_le hne hband (by rw [hrate, hprod])

/-- A rate that nothing can be played at is given the steps of normal speed. -/
theorem steps_of_unplayable {α : Type} [Scalar α] {rate : α}
    (h : ¬ (Scalar.isFinite rate ∧ 0 < rate)) : steps rate = steps 1 := by
  have hrate : effectiveRate rate = 1 := if_neg h
  have hnormal : effectiveRate (1 : α) = 1 := ite_self _
  rw [steps, steps, hrate, hnormal]

/-- In exact arithmetic the loops end for every positive rate, with the fewest steps. A rate that is
zero, negative, infinite or no number has the one step of normal speed, in rounded arithmetic as
well. -/
theorem steps_fewest :
    (∀ rate : Rat, 0 < rate → IsFewest rate (steps rate)) ∧
      (∀ rate : Rat, ¬ 0 < rate → steps rate = steps 1) ∧
      (∀ rate : Binary64, ¬ (Scalar.isFinite rate ∧ 0 < rate) → steps rate = steps 1) ∧
      steps (1 : Rat) = [1] ∧ steps (1 : Binary64) = [1] := by
  refine ⟨fun rate h => isFewest_steps h, fun rate h => ?_, fun rate h => ?_, ?_, ?_⟩
  · exact steps_of_unplayable fun hrate => h hrate.2
  · exact steps_of_unplayable h
  · decide +kernel
  · decide +kernel

/-- Five times as fast takes three steps; backwards and at no rate at all is normal speed. -/
theorem steps_fewest_of_five :
    (0 : Rat) < 5 ∧ IsFewest 5 [2, 2, 1.25] ∧ ¬ (0 : Rat) < -1 ∧ steps (-1 : Rat) = steps 1 ∧
      ¬ (Scalar.isFinite (.nan false : Binary64) ∧ (0 : Binary64) < .nan false) ∧
      steps (.nan false : Binary64) = steps 1 := by
  have hpos : (0 : Rat) < 5 := by decide +kernel
  have hnegative : ¬ (0 : Rat) < -1 := by decide +kernel
  have hnan : ¬ (Scalar.isFinite (.nan false : Binary64) ∧ (0 : Binary64) < .nan false) := by
    decide +kernel
  have hsteps : steps (5 : Rat) = [2, 2, 1.25] := by decide +kernel
  have hfewest := steps_fewest.1 5 hpos
  rw [hsteps] at hfewest
  exact ⟨hpos, hfewest, hnegative, steps_fewest.2.1 (-1) hnegative, hnan,
    steps_fewest.2.2.1 (.nan false) hnan⟩

end Montage.Tempo
