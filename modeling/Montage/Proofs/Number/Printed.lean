import Mathlib
import Montage.Number.Decimal
import Montage.Number.Floating
import Montage.Proofs.Number.Decimal

/-! Numbers printed with a point read back as the units that were printed. -/
namespace Montage.Decimal

variable {n places width : Nat} {cs : List Char} {c : Char}

theorem value_append (xs ys : List Char) :
    Numeral.value (xs ++ ys) = Numeral.value xs * 10 ^ ys.length + Numeral.value ys := by
  induction ys using List.reverseRecOn with
  | nil => simp [Numeral.value]
  | append_singleton ys c ih =>
    rw [← List.append_assoc, value_append_singleton, value_append_singleton, ih, List.length_append,
      List.length_singleton, pow_succ]
    ring

theorem value_replicate_zero (k : Nat) : Numeral.value (List.replicate k '0') = 0 := by
  induction k with
  | zero => rfl
  | succ k ih =>
    rw [List.replicate_succ', value_append_singleton, ih]
    decide

theorem length_digits_le (h : n < 10 ^ width) (hwidth : 0 < width) :
    (digits n).length ≤ width := by
  induction width generalizing n with
  | zero => cases hwidth
  | succ width ih =>
    rw [digits]
    split
    · exact hwidth
    · rename_i hlarge
      have hrest : n / 10 < 10 ^ width := by
        rw [pow_succ] at h
        omega
      have hpos : 0 < width := by
        rcases Nat.eq_zero_or_pos width with rfl | hpos
        · rw [pow_zero] at hrest
          omega
        · exact hpos
      rw [List.length_append, List.length_singleton]
      exact Nat.succ_le_succ (ih hrest hpos)

theorem length_padded (h : n < 10 ^ width) (hwidth : 0 < width) :
    (padded width n).length = width := by
  have hle := length_digits_le h hwidth
  rw [padded, List.length_append, List.length_replicate]
  omega

theorem value_padded (width n : Nat) : Numeral.value (padded width n) = n := by
  rw [padded, value_append, value_replicate_zero, value_digits, zero_mul, zero_add]

theorem isDigit_of_mem_padded (h : c ∈ padded width n) : c.isDigit = true := by
  rcases List.mem_append.mp h with h | h
  · rw [List.eq_of_mem_replicate h]
    decide
  · exact isDigit_of_mem_digits h

/-! ### Numbers with a point -/

/-- The value of digits with or without a point among them. -/
def quantity (cs : List Char) : Rat :=
  let fraction := (cs.dropWhile (· ≠ '.')).drop 1
  Numeral.value (cs.takeWhile (· ≠ '.') ++ fraction) / 10 ^ fraction.length

theorem ne_point_of_isDigit (h : c.isDigit = true) : c ≠ '.' := by
  rintro rfl
  revert h
  decide

theorem quantity_of_digits (h : ∀ c ∈ cs, c.isDigit = true) :
    quantity cs = Numeral.value cs := by
  have hpoint : ∀ c ∈ cs, decide (c ≠ '.') = true :=
    fun c hc => decide_eq_true (ne_point_of_isDigit (h c hc))
  rw [quantity, List.takeWhile_eq_self_iff.mpr hpoint, List.dropWhile_eq_nil_iff.mpr hpoint]
  simp

theorem quantity_point (fraction : List Char) (h : ∀ c ∈ cs, c.isDigit = true) :
    quantity (cs ++ '.' :: fraction) =
      Numeral.value (cs ++ fraction) / 10 ^ fraction.length := by
  have hpoint : ∀ c ∈ cs, decide (c ≠ '.') = true :=
    fun c hc => decide_eq_true (ne_point_of_isDigit (h c hc))
  rw [quantity, List.takeWhile_append_of_pos hpoint, List.dropWhile_append_of_pos hpoint]
  simp

theorem quantity_pointed (places units : Nat) :
    quantity (pointed places units) = units / 10 ^ places := by
  unfold pointed
  split
  · rename_i hplaces
    rw [quantity_of_digits fun _ hc => isDigit_of_mem_digits hc, value_digits, hplaces, pow_zero,
      div_one]
  · rename_i hplaces
    have hrest : units % pow10 places < 10 ^ places := Nat.mod_lt _ (Nat.pow_pos (by decide))
    have hwhole : units / pow10 places * 10 ^ places + units % pow10 places = units := by
      rw [mul_comm]
      exact Nat.div_add_mod _ _
    rw [quantity_point _ fun _ hc => isDigit_of_mem_digits hc, value_append, value_digits,
      value_padded, length_padded hrest (Nat.pos_of_ne_zero hplaces), hwhole]

theorem pointed_injective (places : Nat) : Function.Injective (pointed places) := by
  intro m n h
  have hquantity := congrArg quantity h
  rw [quantity_pointed, quantity_pointed, div_left_inj' (by positivity)] at hquantity
  exact_mod_cast hquantity

theorem pointed_ne_nil (places units : Nat) : pointed places units ≠ [] := by
  unfold pointed
  split <;> simp [digits_ne_nil]

theorem isDigit_or_eq_point_of_mem_pointed {units : Nat} (h : c ∈ pointed places units) :
    c.isDigit = true ∨ c = '.' := by
  unfold pointed at h
  split at h
  · exact Or.inl (isDigit_of_mem_digits h)
  · rcases List.mem_append.mp h with h | h
    · exact Or.inl (isDigit_of_mem_digits h)
    · rcases List.mem_cons.mp h with rfl | h
      · exact Or.inr rfl
      · exact Or.inl (isDigit_of_mem_padded h)

theorem notMem_digits (h : c.isDigit = false) (n : Nat) : c ∉ digits n := fun hc =>
  absurd (isDigit_of_mem_digits hc) (Bool.eq_false_iff.mp h)

theorem notMem_pointed (hdigit : c.isDigit = false) (hpoint : c ≠ '.') (places units : Nat) :
    c ∉ pointed places units := by
  intro hc
  rcases isDigit_or_eq_point_of_mem_pointed hc with h | rfl
  · exact absurd h (Bool.eq_false_iff.mp hdigit)
  · exact hpoint rfl

theorem dash_notMem_pointed (places units : Nat) : '-' ∉ pointed places units :=
  notMem_pointed (by decide) (by decide) places units

theorem takeWhile_pointed (places units : Nat) (rest : List Char) :
    (pointed places units ++ '-' :: rest).takeWhile (· ≠ '-') = pointed places units := by
  have hdash : ∀ c ∈ pointed places units, decide (c ≠ '-') = true := fun c hc =>
    decide_eq_true (ne_of_mem_of_not_mem hc (dash_notMem_pointed places units))
  rw [List.takeWhile_append_of_pos hdash]
  simp

/-- A dash stands at the start of a negative number only, so the next one ends the number. -/
theorem sign_pointed_inj {negative negative' : Bool} {units units' : Nat} {rest rest' : List Char}
    (h : sign negative ++ (pointed places units ++ '-' :: rest) =
      sign negative' ++ (pointed places units' ++ '-' :: rest')) :
    negative = negative' ∧ units = units' := by
  have hdash : ∀ {n : Nat} {tail cs : List Char}, pointed places n ++ tail ≠ '-' :: cs := by
    intro n tail cs heq
    obtain ⟨first, more, hcons⟩ := List.exists_cons_of_ne_nil (pointed_ne_nil places n)
    rw [hcons, List.cons_append, List.cons.injEq] at heq
    apply dash_notMem_pointed places n
    rw [hcons, heq.1]
    exact List.mem_cons_self
  have hsame : negative = negative' := by
    cases negative <;> cases negative'
    · rfl
    · exact absurd h hdash
    · exact absurd h.symm hdash
    · rfl
  subst hsame
  have hnumber := congrArg (List.takeWhile (· ≠ '-')) (List.append_cancel_left h)
  rw [takeWhile_pointed, takeWhile_pointed] at hnumber
  exact ⟨rfl, pointed_injective places hnumber⟩

end Montage.Decimal

namespace Montage.Reading

/-- The value in units of the last of some printed places, without its sign. -/
def units (places : Nat) : Reading → Nat
  | .finite _ num den => Decimal.roundDiv .toEven (num * pow10 places) den
  | _ => 0

end Montage.Reading

namespace Montage.Scalar

variable {α : Type} [Scalar α] {x : α} {num den : Nat}

theorem toList_fixed (places : Nat) (h : reading x = .finite false num den) :
    (fixed places x).toList = Decimal.pointed places ((reading x).units places) := by
  rw [fixed, h, Decimal.fixed, String.toList_ofList]
  rfl

end Montage.Scalar

/-! ### The characters of printed numbers -/

namespace Montage

/-- A digit, a sign, a point, or a letter of what stands for a value without digits. -/
def IsNumberChar (c : Char) : Prop :=
  c.isDigit = true ∨ c ∈ ['-', '.', 'N', 'a', 'i', 'n', 'f']

theorem isNumberChar_of_mem_nan : ∀ c ∈ ['N', 'a', 'N'], IsNumberChar c := by
  simp [IsNumberChar]

theorem isNumberChar_of_mem_infinity : ∀ c ∈ ['i', 'n', 'f'], IsNumberChar c := by
  simp [IsNumberChar]

variable {c : Char}

namespace Decimal

variable {places units : Nat} {negative : Bool} {cs : List Char} {exponent : Int}

theorem isNumberChar_of_mem_sign (h : c ∈ sign negative) : IsNumberChar c := by
  cases negative with
  | false => cases h
  | true =>
    rw [List.mem_singleton.mp h]
    exact Or.inr List.mem_cons_self

theorem isNumberChar_of_mem_pointed (h : c ∈ pointed places units) : IsNumberChar c := by
  rcases isDigit_or_eq_point_of_mem_pointed h with h | rfl
  · exact Or.inl h
  · exact Or.inr (by decide)

theorem isNumberChar_of_mem_fixedChars {r : Reading} (h : c ∈ fixedChars places r) :
    IsNumberChar c := by
  cases r with
  | nan => exact isNumberChar_of_mem_nan c h
  | infinite negative =>
    rcases List.mem_append.mp h with h | h
    · exact isNumberChar_of_mem_sign h
    · exact isNumberChar_of_mem_infinity c h
  | finite negative num den =>
    rcases List.mem_append.mp h with h | h
    · exact isNumberChar_of_mem_sign h
    · exact isNumberChar_of_mem_pointed h

theorem fixedChars_ne_nil (places : Nat) (r : Reading) : fixedChars places r ≠ [] := by
  cases r <;> simp [fixedChars, pointed_ne_nil]

theorem isNumberChar_of_mem_positional (hcs : ∀ c ∈ cs, c.isDigit = true)
    (h : c ∈ positional cs exponent) : IsNumberChar c := by
  have hzero : IsNumberChar '0' := Or.inl (by decide)
  have hpoint : IsNumberChar '.' := Or.inr (by decide)
  unfold positional at h
  split at h
  · rcases List.mem_append.mp h with h | h
    · exact Or.inl (hcs c h)
    · rwa [List.eq_of_mem_replicate h]
  · dsimp only at h
    split at h
    · rcases List.mem_append.mp h with h | h
      · exact Or.inl (hcs c (List.mem_of_mem_take h))
      · rcases List.mem_cons.mp h with rfl | h
        · exact hpoint
        · exact Or.inl (hcs c (List.mem_of_mem_drop h))
    · rcases List.mem_append.mp h with h | h
      · rcases List.mem_cons.mp h with rfl | h
        · exact hzero
        · rcases List.mem_cons.mp h with rfl | h
          · exact hpoint
          · rwa [List.eq_of_mem_replicate h]
      · exact Or.inl (hcs c h)

end Decimal

namespace Scalar

variable {α : Type} [Scalar α] {x : α}

theorem isNumberChar_of_mem_fixed {places : Nat} (h : c ∈ (fixed places x).toList) :
    IsNumberChar c := by
  rw [fixed, Decimal.fixed, String.toList_ofList] at h
  exact Decimal.isNumberChar_of_mem_fixedChars h

theorem dropTrailing_sublist (d : Char) (cs : List Char) : (dropTrailing d cs).Sublist cs := by
  have hreverse := (List.dropWhile_sublist (· = d) (l := cs.reverse)).reverse
  rwa [List.reverse_reverse] at hreverse

theorem isNumberChar_of_mem_seconds (h : c ∈ (seconds x).toList) : IsNumberChar c := by
  rw [seconds] at h
  split at h
  · exact Or.inl (by simp at h; simp [h])
  · rw [String.toList_ofList] at h
    exact Decimal.isNumberChar_of_mem_fixedChars
      ((dropTrailing_sublist '0' _).subset ((dropTrailing_sublist '.' _).subset h))

theorem isNumberChar_of_mem_shortest {x : Binary64} (h : c ∈ (shortest x).toList) :
    IsNumberChar c := by
  change c ∈ (Binary64.print .bare x).toList at h
  cases x with
  | nan negative => exact isNumberChar_of_mem_nan c (by simpa [Binary64.print] using h)
  | infinite negative =>
    rw [Binary64.print, String.toList_ofList] at h
    rcases List.mem_append.mp h with h | h
    · exact Decimal.isNumberChar_of_mem_sign h
    · exact isNumberChar_of_mem_infinity c h
  | finite negative units hunits =>
    rw [Binary64.print, String.toList_ofList] at h
    rcases List.mem_append.mp h with h | h
    · exact Decimal.isNumberChar_of_mem_sign h
    · simp only [Binary64.Layout.bare, if_true, Bool.false_eq_true, false_and, if_false,
        List.append_nil] at h
      exact Decimal.isNumberChar_of_mem_positional
        (fun _ => Decimal.isDigit_of_mem_digits) h

end Scalar

end Montage
