/-!
Powers of the two bases that numbers are written in.
-/

namespace Montage

/-- The first whole number that needs more than `n` bits. -/
abbrev pow2 (n : Nat) : Nat :=
  Nat.pow 2 n

/-- The first whole number that needs more than `n` decimal digits. -/
abbrev pow10 (n : Nat) : Nat :=
  Nat.pow 10 n

theorem pow2_pos (n : Nat) : 0 < pow2 n :=
  Nat.pow_pos (by decide)

theorem pow2_add (m n : Nat) : pow2 (m + n) = pow2 m * pow2 n :=
  Nat.pow_add 2 m n

theorem pow2_lt_pow2 {m n : Nat} (h : m < n) : pow2 m < pow2 n :=
  Nat.pow_lt_pow_right (by decide) h

theorem pow2_dvd_pow2 {m n : Nat} (h : m ≤ n) : pow2 m ∣ pow2 n :=
  Nat.pow_dvd_pow 2 h

/-!
The exact value of a number, as printing needs it.
-/

/-- A number read exactly. The sign stands apart, because a printed zero may carry one. -/
inductive Reading
  | nan
  | infinite (negative : Bool)
  | finite (negative : Bool) (num den : Nat)
  deriving DecidableEq, Repr

namespace Reading

def isFinite : Reading → Bool
  | finite .. => true
  | _ => false

/-- How many times the value can be halved or doubled before it lies between 1/2 and 2, at most. -/
def octaves : Reading → Nat
  | finite _ num den => Nat.log2 (num / den) + Nat.log2 (den / num) + 2
  | _ => 0

end Reading

end Montage
