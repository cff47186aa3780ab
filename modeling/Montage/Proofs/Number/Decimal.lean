import Mathlib.Data.List.TakeWhile
import Montage.Number.Floating
import Montage.Number.Numeral

/-! Printed natural numbers read back, so that digits tell numbers apart. A numeral of a finite
number is made of digits and a few marks. -/
namespace Montage.Decimal

theorem digitValue_digitChar : ∀ d < 10, Numeral.digitValue (digitChar d) = d := by
  decide

theorem isDigit_digitChar : ∀ d < 10, (digitChar d).isDigit = true := by
  decide

theorem value_append_singleton (cs : List Char) (c : Char) :
    Numeral.value (cs ++ [c]) = Numeral.value cs * 10 + Numeral.digitValue c := by
  simp [Numeral.value]

theorem value_digits (n : Nat) : Numeral.value (digits n) = n := by
  fun_induction digits n with
  | case1 n hsmall =>
    have hdigit := digitValue_digitChar n hsmall
    simpa [Numeral.value] using hdigit
  | case2 n hlarge ih =>
    rw [value_append_singleton, ih, digitValue_digitChar _ (by omega)]
    omega

theorem digits_ne_nil (n : Nat) : digits n ≠ [] := by
  rw [digits]
  split <;> simp

theorem digits_injective : Function.Injective digits :=
  Function.LeftInverse.injective value_digits

theorem isDigit_of_mem_digits {n : Nat} {c : Char} (h : c ∈ digits n) : c.isDigit = true := by
  fun_induction digits n with
  | case1 n hsmall =>
    rw [List.mem_singleton.mp h]
    exact isDigit_digitChar n hsmall
  | case2 n hlarge ih =>
    rcases List.mem_append.mp h with h | h
    · exact ih h
    · rw [List.mem_singleton.mp h]
      exact isDigit_digitChar _ (by omega)

end Montage.Decimal

namespace Montage.Numeral

variable {cs : List Char} {x : Binary64} {e : Int} {c : Char}

/-- A digit, a sign, a point, or the letter in front of a power of ten. -/
def IsMark (c : Char) : Prop :=
  c.isDigit = true ∨ c ∈ ['-', '+', '.', 'e', 'E']

theorem mem_signed (h : c ∈ cs) : IsMark c ∨ c ∈ (signed cs).2 := by
  unfold signed
  split
  · rcases List.mem_cons.mp h with rfl | h
    · exact Or.inl (Or.inr (by decide))
    · exact Or.inr h
  · rcases List.mem_cons.mp h with rfl | h
    · exact Or.inl (Or.inr (by decide))
    · exact Or.inr h
  · exact Or.inr h

theorem isMark_of_exponent? (h : exponent? cs = some e) (hc : c ∈ cs) : IsMark c := by
  cases cs with
  | nil => cases hc
  | cons mark rest =>
    rw [exponent?] at h
    split at h
    · rename_i hmark
      dsimp only at h
      split at h
      · cases h
      · rename_i hdigits
        simp only [Bool.not_eq_true', not_or, Bool.not_eq_false, List.all_eq_true] at hdigits
        rcases List.mem_cons.mp hc with rfl | hc
        · rcases hmark with rfl | rfl
          · exact Or.inr (by decide)
          · exact Or.inr (by decide)
        · rcases mem_signed hc with hsign | hdigit
          · exact hsign
          · exact Or.inl (hdigits.2 c hdigit)
    · cases h

theorem mem_takeWhile_or_dropWhile {p : Char → Bool} (h : c ∈ cs) :
    p c = true ∨ c ∈ cs.dropWhile p := by
  rw [← List.takeWhile_append_dropWhile (p := p) (l := cs)] at h
  rcases List.mem_append.mp h with h | h
  · exact Or.inl (List.mem_takeWhile_imp h)
  · exact Or.inr h

/-- A number that is finite is written without a name. -/
theorem isMark_of_real? (h : real? cs = some x) (hfinite : Scalar.isFinite x = true)
    (hc : c ∈ cs) : IsMark c := by
  rcases mem_signed hc with hsign | hbody
  · exact hsign
  rw [real?] at h
  dsimp only at h
  split at h
  · obtain rfl := Option.some.inj h
    cases hfinite
  split at h
  · obtain rfl := Option.some.inj h
    cases hfinite
  rcases mem_takeWhile_or_dropWhile (p := Char.isDigit) hbody with hdigit | hafter
  · exact Or.inl hdigit
  split at h
  · rename_i more hmore
    split at h
    · cases h
    · obtain ⟨e, he, -⟩ := Option.map_eq_some_iff.mp h
      rw [hmore] at hafter
      rcases List.mem_cons.mp hafter with rfl | hafter
      · exact Or.inr (by decide)
      · rcases mem_takeWhile_or_dropWhile (p := Char.isDigit) hafter with hdigit | hrest
        · exact Or.inl hdigit
        · exact isMark_of_exponent? he hrest
  · split at h
    · cases h
    · obtain ⟨e, he, -⟩ := Option.map_eq_some_iff.mp h
      exact isMark_of_exponent? he hafter

end Montage.Numeral
