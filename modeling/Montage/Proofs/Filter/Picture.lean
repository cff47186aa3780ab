import Montage.Filter.Basic
import Montage.Number.Floating
import Montage.Proofs.Number.Binary64

/-! A crop whose sides are numbers can be brought inside the frame. -/
namespace Montage

/-- Both sides of the crop are numbers. -/
def CropRect.HasSize {α : Type} [Scalar α] (crop : CropRect α) : Prop :=
  Scalar.reading crop.width ≠ .nan ∧ Scalar.reading crop.height ≠ .nan

instance {α : Type} [Scalar α] (crop : CropRect α) : Decidable crop.HasSize :=
  inferInstanceAs (Decidable (_ ∧ _))

namespace Binary64

variable {x y : Binary64}

/-- A finite value less a part of it is not negative. -/
theorem sub_nonneg_of_le (hzero : 0 ≤ x) (h : x ≤ y) (hfinite : Scalar.isFinite y = true) :
    0 ≤ y - x := by
  obtain ⟨zero, a, hposition, ha, hnonneg⟩ := le_iff.mp hzero
  obtain rfl : zero = 0 := by simpa [position_zero] using hposition.symm
  obtain ⟨a', b, ha', hb, hab⟩ := le_iff.mp h
  obtain rfl : a' = a := by simpa [ha] using ha'.symm
  have hlt : b < limit := by
    cases y with
    | nan s => cases hb
    | infinite s => cases hfinite
    | finite s n hn =>
      obtain rfl : signed s n = b := Option.some.inj hb
      exact (signed_lt_limit s hn).2
  have hnegate : x.negate.position = some (-a') := by simp [position_negate, ha]
  have hsum : sumPosition b (-a') = some (rounded (b + -a')) := by
    have hlimit := one_lt_limit
    rw [sumPosition, if_neg (by omega), if_neg (by omega), if_neg (by omega), if_neg (by omega)]
  refine le_iff.mpr ⟨0, rounded (b + -a'), position_zero, ?_, ?_⟩
  · exact (position_sub y x).trans ((position_add hb hnegate).trans hsum)
  · have hround := rounded_mono (show 0 ≤ b + -a' by omega)
    rwa [rounded_zero] at hround

theorem one_sub_clamp_nonneg (h : Scalar.reading x ≠ .nan) :
    0 ≤ 1 - Scalar.clamp 0.01 1 x := by
  have hleast : (0 : Binary64) ≤ 0.01 := by decide +kernel
  obtain ⟨hlow, hhigh⟩ := clamp_between (show (0.01 : Binary64) ≤ 1 by decide +kernel) h
  exact sub_nonneg_of_le (LawfulScalar.le_trans hleast hlow) hhigh (by decide +kernel)

end Binary64

theorem Transform.cropWindow?_isSome {crop : CropRect Binary64} (h : crop.HasSize) :
    (cropWindow? crop).isSome := by
  have hinside : 0 ≤ 1 - Scalar.clamp 0.01 1 crop.width ∧
      0 ≤ 1 - Scalar.clamp 0.01 1 crop.height :=
    ⟨Binary64.one_sub_clamp_nonneg h.1, Binary64.one_sub_clamp_nonneg h.2⟩
  rw [cropWindow?, if_pos hinside]
  rfl

theorem Transform.filters?_isSome {change : Transform Binary64} {width height : Nat}
    (h : ∀ crop ∈ change.crop, crop.HasSize) : (change.filters? width height).isSome := by
  unfold filters?
  split
  · rfl
  · dsimp only
    split
    · rfl
    · rename_i crop hcrop
      rw [Option.isSome_map]
      exact cropWindow?_isSome (h crop hcrop)

end Montage
