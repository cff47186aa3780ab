import Montage.Number.Power

/-!
The numbers that times, rates and scores are made of. Everything that computes with time is generic
over `Scalar`, so one definition runs on binary floating point and is reasoned about in exact
arithmetic.
-/

namespace Montage

/-- Arithmetic, comparison, rounding and printing of one kind of number.

`≤` and `<` may fail for every pair that involves a value which is not a number; `precedes` is a
total order in any case. -/
class Scalar (α : Type) extends Zero α, One α, NatCast α, OfScientific α,
    Add α, Sub α, Mul α, Div α, LE α, LT α where
  decidableLE : DecidableLE α
  decidableLT : DecidableLT α
  precedes : α → α → Bool
  /-- The nearest whole number; a half goes away from zero. -/
  nearest : α → α
  ceiling : α → α
  reading : α → Reading
  /-- The fewest digits that read back to the same value, without an exponent. -/
  shortest : α → String

namespace Scalar

variable {α : Type} [Scalar α]

instance (x y : α) : Decidable (x ≤ y) :=
  decidableLE x y

instance (x y : α) : Decidable (x < y) :=
  decidableLT x y

def isFinite (x : α) : Bool :=
  (reading x).isFinite

/-- Equal in value: a number that is not one differs from itself. -/
def Same (x y : α) : Prop :=
  x ≤ y ∧ y ≤ x

instance (x y : α) : Decidable (Same x y) :=
  inferInstanceAs (Decidable (_ ∧ _))

/-- The larger of two; a value that does not compare with itself gives way to the other. -/
def max (x y : α) : α :=
  if ¬ x ≤ x then y else if y < x ∨ ¬ y ≤ y then x else y

/-- The smaller of two; a value that does not compare with itself gives way to the other. -/
def min (x y : α) : α :=
  if ¬ x ≤ x then y else if x < y ∨ ¬ y ≤ y then x else y

def clamp (lo hi x : α) : α :=
  if x < lo then lo else if hi < x then hi else x

/-- A share of one; nothing finite reads as none. -/
def clampUnit (x : α) : α :=
  if isFinite x then clamp 0 1 x else 0

/-- `acc * x ^ n` by repeated squaring. -/
def powerFrom (acc x : α) (n : Nat) : α :=
  let acc := if n % 2 = 1 then acc * x else acc
  if h : n / 2 = 0 then acc else powerFrom acc (x * x) (n / 2)
termination_by n
decreasing_by omega

/-- Rounded to `places` decimals, a half going away from zero. -/
def roundTo (x : α) (places : Int) : α :=
  let power := powerFrom 1 (10.0 : α) places.natAbs
  let factor := if places < 0 then 1 / power else power
  nearest (x * factor) / factor

def sum (xs : List α) : α :=
  xs.foldl (· + ·) 0

/-- The largest of `start` and the list. -/
def maximum (start : α) (xs : List α) : α :=
  xs.foldl max start

end Scalar

end Montage
