import Montage.Number.Decimal
import Montage.Number.Scalar

/-!
Binary floating point with 53 significant bits. Every finite value is a whole number of units of
`2 ^ -1074`, so each operation is exact arithmetic on units followed by one rounding.
-/

namespace Montage

namespace Binary64

/-- The distance to the next larger value at `units`. -/
def spacing (units : Nat) : Nat :=
  pow2 (Nat.log2 units - 52)

/-- The first magnitude, in units, that is too large. -/
def limit : Nat :=
  pow2 2098

/-- One, in units. -/
def one : Nat :=
  pow2 1074

/-- A magnitude that lies on the grid and is in range. -/
def Representable (units : Nat) : Prop :=
  spacing units ∣ units ∧ units < limit

instance (units : Nat) : Decidable (Representable units) :=
  inferInstanceAs (Decidable (_ ∧ _))

end Binary64

/-- A floating point value. A value that is not a number keeps a sign, because a total order sees
it. -/
inductive Binary64
  | nan (negative : Bool)
  | infinite (negative : Bool)
  | finite (negative : Bool) (units : Nat) (representable : Binary64.Representable units)
  deriving DecidableEq

namespace Binary64

/-- The grid point nearest to `n / d` units; a half goes to the even neighbour. -/
def nearestUnits (n d : Nat) : Nat :=
  Decimal.roundDiv .toEven n (d * spacing (n / d)) * spacing (n / d)

theorem spacing_eq {n k : Nat} (lo : pow2 (52 + k) ≤ n) (hi : n < pow2 (53 + k)) :
    spacing n = pow2 k := by
  have pos : n ≠ 0 := by
    have := pow2_pos (52 + k)
    omega
  have upper : Nat.log2 n < 53 + k := (Nat.log2_lt pos).2 hi
  have lower : ¬ Nat.log2 n < 52 + k := fun h => Nat.not_le.2 ((Nat.log2_lt pos).1 h) lo
  exact congrArg pow2 (by omega)

theorem spacing_eq_one {n : Nat} (h : n < pow2 53) : spacing n = 1 := by
  by_cases pos : n = 0
  · subst pos
    decide
  · have : Nat.log2 n < 53 := (Nat.log2_lt pos).2 h
    exact congrArg pow2 (show Nat.log2 n - 52 = 0 by omega)

/-- A number that needs more than 52 bits lies between neighbouring powers of two. -/
theorem exists_pow2_le_lt {n : Nat} (h : pow2 52 ≤ n) :
    ∃ k, pow2 (52 + k) ≤ n ∧ n < pow2 (53 + k) := by
  have pos : n ≠ 0 := by
    have := pow2_pos 52
    omega
  have top : ¬ Nat.log2 n < 52 := fun small => Nat.not_le.2 ((Nat.log2_lt pos).1 small) h
  refine ⟨Nat.log2 n - 52, ?_, ?_⟩
  · rw [show 52 + (Nat.log2 n - 52) = Nat.log2 n by omega]
    exact Nat.log2_self_le pos
  · rw [show 53 + (Nat.log2 n - 52) = Nat.log2 n + 1 by omega]
    exact Nat.lt_log2_self

theorem spacing_dvd_nearestUnits (n d : Nat) : spacing (nearestUnits n d) ∣ nearestUnits n d := by
  by_cases small : n / d < pow2 52
  · have one : spacing (n / d) = 1 :=
      spacing_eq_one (Nat.lt_trans small (pow2_lt_pow2 (by decide)))
    have bound := Decimal.roundDiv_le .toEven n (d * 1)
    have : nearestUnits n d < pow2 53 := by
      have step : pow2 52 < pow2 53 := pow2_lt_pow2 (by decide)
      simp only [nearestUnits, one, Nat.mul_one] at bound ⊢
      omega
    rw [spacing_eq_one this]
    exact Nat.one_dvd _
  · obtain ⟨k, lo, hi⟩ := exists_pow2_le_lt (Nat.not_lt.1 small)
    have stepPos := pow2_pos k
    have qlo : pow2 52 ≤ n / (d * pow2 k) := by
      rw [← Nat.div_div_eq_div_mul, Nat.le_div_iff_mul_le stepPos, ← pow2_add]
      exact lo
    have qhi : n / (d * pow2 k) < pow2 53 := by
      rw [← Nat.div_div_eq_div_mul, Nat.div_lt_iff_lt_mul stepPos, ← pow2_add]
      exact hi
    have rlo := Decimal.le_roundDiv .toEven n (d * pow2 k)
    have rhi := Decimal.roundDiv_le .toEven n (d * pow2 k)
    simp only [nearestUnits, spacing_eq lo hi]
    generalize Decimal.roundDiv .toEven n (d * pow2 k) = r at rlo rhi
    by_cases top : r = pow2 53
    · have shift : r * pow2 k = pow2 (52 + (k + 1)) := by
        rw [top, ← pow2_add]
        exact congrArg pow2 (by omega)
      have : spacing (r * pow2 k) = pow2 (k + 1) := by
        refine spacing_eq (Nat.le_of_eq shift.symm) ?_
        rw [shift]
        exact pow2_lt_pow2 (by omega)
      rw [this, shift]
      exact pow2_dvd_pow2 (by omega)
    · have : spacing (r * pow2 k) = pow2 k := by
        refine spacing_eq ?_ ?_
        · rw [pow2_add]
          exact Nat.mul_le_mul_right _ (Nat.le_trans qlo rlo)
        · rw [pow2_add]
          exact Nat.mul_lt_mul_of_pos_right (by omega) stepPos
      rw [this]
      exact Nat.dvd_mul_left ..

/-- The value nearest to `n / d` units. -/
def ofUnits (negative : Bool) (n d : Nat) : Binary64 :=
  if h : nearestUnits n d < limit then
    .finite negative (nearestUnits n d) ⟨spacing_dvd_nearestUnits n d, h⟩
  else .infinite negative

/-- The value nearest to `n / d`. -/
def ofRatio (negative : Bool) (n d : Nat) : Binary64 :=
  ofUnits negative (n * one) d

def ofNat (n : Nat) : Binary64 :=
  ofRatio false n 1

def ofInt (n : Int) : Binary64 :=
  ofRatio (n < 0) n.natAbs 1

/-- The value nearest to `mantissa × 10 ^ exponent`. Exponents far out of range are settled by the
count of digits alone. -/
def ofDecimal (negative : Bool) (mantissa : Nat) (exponent : Int) : Binary64 :=
  if mantissa = 0 then ofUnits negative 0 1
  else
    let top := exponent + (Decimal.digits mantissa).length
    if 400 < top then .infinite negative
    else if top < -400 then ofUnits negative 0 1
    else if 0 ≤ exponent then ofRatio negative (mantissa * pow10 exponent.natAbs) 1
    else ofRatio negative mantissa (pow10 exponent.natAbs)

/-! ### Arithmetic

An operation without a defined result gives the negative value that is not a number; an operand
that is not a number is passed on. -/

def add : Binary64 → Binary64 → Binary64
  | .nan s, _ => .nan s
  | _, .nan t => .nan t
  | .infinite s, .infinite t => if s = t then .infinite s else .nan true
  | .infinite s, .finite .. => .infinite s
  | .finite .., .infinite t => .infinite t
  | .finite s a _, .finite t b _ =>
    if s = t then ofUnits s (a + b) 1
    else if b < a then ofUnits s (a - b) 1
    else if a < b then ofUnits t (b - a) 1
    else ofUnits false 0 1

/-- The same magnitude with the other sign. -/
def negate : Binary64 → Binary64
  | .nan s => .nan !s
  | .infinite s => .infinite !s
  | .finite s a h => .finite (!s) a h

def sub : Binary64 → Binary64 → Binary64
  | .nan s, _ => .nan s
  | _, .nan t => .nan t
  | x, y => add x y.negate

def mul : Binary64 → Binary64 → Binary64
  | .nan s, _ => .nan s
  | _, .nan t => .nan t
  | .infinite s, .infinite t => .infinite (s ^^ t)
  | .infinite s, .finite t b _ => if b = 0 then .nan true else .infinite (s ^^ t)
  | .finite s a _, .infinite t => if a = 0 then .nan true else .infinite (s ^^ t)
  | .finite s a _, .finite t b _ => ofUnits (s ^^ t) (a * b) one

def div : Binary64 → Binary64 → Binary64
  | .nan s, _ => .nan s
  | _, .nan t => .nan t
  | .infinite _, .infinite _ => .nan true
  | .infinite s, .finite t .. => .infinite (s ^^ t)
  | .finite s .., .infinite t => ofUnits (s ^^ t) 0 1
  | .finite s a _, .finite t b _ =>
    if b = 0 then if a = 0 then .nan true else .infinite (s ^^ t)
    else ofUnits (s ^^ t) (a * one) b

/-! ### Order -/

/-- The signed count of units of a value on the extended line, or nothing. -/
def position : Binary64 → Option Int
  | .nan _ => none
  | .infinite negative => some (if negative then -limit else limit)
  | .finite negative units _ => some (if negative then -units else units)

def le (x y : Binary64) : Bool :=
  match x.position, y.position with
  | some a, some b => decide (a ≤ b)
  | _, _ => false

def lt (x y : Binary64) : Bool :=
  match x.position, y.position with
  | some a, some b => decide (a < b)
  | _, _ => false

/-- Where a value stands in the total order: a negative zero before zero, and the values that are
not numbers at the two ends. -/
def rank : Binary64 → Int
  | .nan negative => if negative then -(limit + 2 : Int) else limit + 1
  | .infinite negative => if negative then -(limit + 1 : Int) else limit
  | .finite negative units _ => if negative then -(units + 1 : Int) else units

/-! ### Rounding to whole numbers -/

def nearest : Binary64 → Binary64
  | .finite negative units _ => ofUnits negative (Decimal.roundDiv .up units one * one) 1
  | x => x

def ceiling : Binary64 → Binary64
  | .finite negative units _ =>
    let whole := if negative then units / one else (units + (one - 1)) / one
    ofUnits negative (whole * one) 1
  | x => x

def reading : Binary64 → Reading
  | .nan _ => .nan
  | .infinite negative => .infinite negative
  | .finite negative units _ => .finite negative units one

end Binary64

end Montage
