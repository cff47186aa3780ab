import Montage.Number.Scalar

/-! The laws that rounded and exact arithmetic share. A value may fail to compare with itself, so
every law is about values that do compare. -/
namespace Montage

/-- Ordered arithmetic that may round: adding is monotone as far as a strict comparison can tell. -/
class LawfulScalar (α : Type) [Scalar α] : Prop where
  le_trans {x y z : α} : x ≤ y → y ≤ z → x ≤ z
  lt_iff_le_not_ge {x y : α} : x < y ↔ x ≤ y ∧ ¬ y ≤ x
  le_self_left {x y : α} : x ≤ y → x ≤ x
  le_self_right {x y : α} : x ≤ y → y ≤ y
  decimal_nonneg (m e : Nat) : 0 ≤ (OfScientific.ofScientific m true e : α)
  add_lt_of_le {x y z e : α} : x ≤ y → y + e < z → x + e < z
  lt_sub_of_le {x y z e : α} : x ≤ y → z < x - e → z < y - e
  lt_of_add_lt {x z e : α} : 0 ≤ e → x + e < z → x < z
  lt_of_lt_sub {x z e : α} : 0 ≤ e → z < x - e → z < x
  sub_pos {x y : α} : 0 < y - x ↔ x < y
  precedes_trans (x y z : α) : Scalar.precedes x y → Scalar.precedes y z → Scalar.precedes x z
  precedes_total (x y : α) : Scalar.precedes x y || Scalar.precedes y x

/-- Lawful arithmetic in which sorting tells any two values apart. -/
class LinearScalar (α : Type) [Scalar α] : Prop extends LawfulScalar α where
  precedes_antisymm (x y : α) : Scalar.precedes x y → Scalar.precedes y x → x = y

namespace Scalar

variable {α : Type} [Scalar α] [LawfulScalar α] {x y z : α}

theorem le_of_lt (h : x < y) : x ≤ y :=
  (LawfulScalar.lt_iff_le_not_ge.mp h).1

theorem lt_irrefl (x : α) : ¬ x < x := by
  intro h
  obtain ⟨hle, hge⟩ := LawfulScalar.lt_iff_le_not_ge.mp h
  exact hge hle

theorem lt_of_le_of_lt (hxy : x ≤ y) (hyz : y < z) : x < z := by
  obtain ⟨hle, hge⟩ := LawfulScalar.lt_iff_le_not_ge.mp hyz
  exact LawfulScalar.lt_iff_le_not_ge.mpr ⟨LawfulScalar.le_trans hxy hle, fun hzx =>
    hge (LawfulScalar.le_trans hzx hxy)⟩

theorem lt_of_lt_of_le (hxy : x < y) (hyz : y ≤ z) : x < z := by
  obtain ⟨hle, hge⟩ := LawfulScalar.lt_iff_le_not_ge.mp hxy
  exact LawfulScalar.lt_iff_le_not_ge.mpr ⟨LawfulScalar.le_trans hle hyz, fun hzx =>
    hge (LawfulScalar.le_trans hyz hzx)⟩

theorem max_zero_of_pos (h : 0 < x) : max x 0 = x := by
  have hx : x ≤ x := LawfulScalar.le_self_right (le_of_lt h)
  simp [max, hx, h]

theorem pos_of_max_pos (h : 0 < max x 0) : 0 < x := by
  unfold max at h
  split at h
  · exact (lt_irrefl 0 h).elim
  · split at h
    · exact h
    · exact (lt_irrefl 0 h).elim

theorem zero_le_zero : (0 : α) ≤ 0 :=
  LawfulScalar.le_self_left (LawfulScalar.decimal_nonneg 0 0)

theorem max_zero_cases (x : α) : max x 0 = x ∧ 0 < x ∨ max x 0 = 0 := by
  unfold max
  split
  · exact Or.inr rfl
  · split
    · rename_i hlarger
      exact Or.inl ⟨rfl, hlarger.resolve_right fun h => h zero_le_zero⟩
    · exact Or.inr rfl

theorem min_cases (x : α) (h : y ≤ y) :
    min x y = x ∧ x < y ∨ min x y = y ∧ ¬ x < y := by
  unfold min
  split
  · rename_i hself
    exact Or.inr ⟨rfl, fun hlt => hself (LawfulScalar.le_self_left (le_of_lt hlt))⟩
  · split
    · rename_i hsmaller
      exact Or.inl ⟨rfl, hsmaller.resolve_right fun hself => hself h⟩
    · rename_i hlarger
      exact Or.inr ⟨rfl, fun hlt => hlarger (Or.inl hlt)⟩

/-- What is sorted depends only on how often each value stands in the list. -/
theorem mergeSort_eq_of_perm {α : Type} [Scalar α] [LinearScalar α] {xs ys : List α}
    (h : xs.Perm ys) : xs.mergeSort precedes = ys.mergeSort precedes := by
  have hsorted (zs : List α) : (zs.mergeSort precedes).Pairwise fun x y => precedes x y :=
    List.pairwise_mergeSort LawfulScalar.precedes_trans LawfulScalar.precedes_total zs
  have hperm : (xs.mergeSort precedes).Perm (ys.mergeSort precedes) :=
    (List.mergeSort_perm xs _).trans (h.trans (List.mergeSort_perm ys _).symm)
  exact hperm.eq_of_pairwise (fun x y _ _ => LinearScalar.precedes_antisymm x y)
    (hsorted xs) (hsorted ys)

end Scalar

end Montage
