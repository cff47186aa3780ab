import Montage.Number.Binary64

/-!
The fewest decimal digits that read back to a given floating point value.
-/

namespace Montage.Binary64

/-- The exponent `e` with `10 ^ e ≤ num / den < 10 ^ (e + 1)`. -/
def decade (num den : Nat) : Int :=
  if den ≤ num then ((Decimal.digits (num / den)).length : Int) - 1
  else -((Decimal.digits ((den - 1) / num)).length : Int)

/-- Whether `p / q` units round to `units`. The ends of the interval belong to it when the last
bit of `units` is even. -/
def roundsTo (units p q : Nat) : Bool :=
  let gap := spacing units
  let below := if units = pow2 52 * gap ∧ 1 < gap then gap else 2 * gap
  let low := (4 * units - below) * q
  let high := (4 * units + 2 * gap) * q
  if units / gap % 2 = 0 then low ≤ 4 * p ∧ 4 * p ≤ high else low < 4 * p ∧ 4 * p < high

/-- The point of the grid of `count` digits that reads back to `units` and lies nearest to it. -/
def candidate? (tie : Decimal.Tie) (units count : Nat) : Option (Nat × Int) :=
  let exponent := decade units one - count + 1
  -- The value is `num / den` grid steps.
  let (num, den) :=
    if 0 ≤ exponent then (units, one * pow10 exponent.natAbs)
    else (units * pow10 exponent.natAbs, one)
  let fits (m : Nat) : Bool :=
    if 0 ≤ exponent then roundsTo units (m * pow10 exponent.natAbs * one) 1
    else roundsTo units (m * one) (pow10 exponent.natAbs)
  let down := num / den
  let up := down + 1
  let first := Decimal.roundDiv tie num den
  let second := if first = down then up else down
  if fits first then some (first, exponent)
  else if fits second then some (second, exponent)
  else none

/-- Trailing zeros moved into the exponent. -/
def trimmed (m : Nat) (e : Int) : Nat × Int :=
  if h : m ≠ 0 ∧ m % 10 = 0 then trimmed (m / 10) (e + 1) else (m, e)
termination_by m
decreasing_by omega

/-- The shortest decimal `m × 10 ^ e` that reads back to `units`. -/
def shortestDecimal (tie : Decimal.Tie) (units : Nat) : Nat × Int :=
  if units = 0 then (0, 0)
  else
    match (List.range' 1 17).findSome? (candidate? tie units) with
    | some (m, e) => trimmed m e
    | none => (0, 0)

/-- How a value is written in a text: which decimal exponents need no power of ten, whether a whole
number shows its empty fraction, and where a value halfway between two shortest decimals goes. -/
structure Layout where
  plain : Int → Bool
  showFraction : Bool
  tie : Decimal.Tie

/-- Never an exponent, never an empty fraction; a half goes up. -/
def Layout.bare : Layout :=
  ⟨fun _ => true, false, .up⟩

/-- A power of ten below `10 ^ -5` and from `10 ^ 16` on; a whole number ends in `.0`, and a half
goes to the even digit. -/
def Layout.document : Layout :=
  ⟨fun e => -5 ≤ e ∧ e ≤ 15, true, .toEven⟩

def print (layout : Layout) : Binary64 → String
  | .nan _ => "NaN"
  | .infinite negative => String.ofList (Decimal.sign negative ++ ['i', 'n', 'f'])
  | .finite negative units _ =>
    let (m, e) := shortestDecimal layout.tie units
    let text := Decimal.digits m
    let body :=
      if layout.plain (e + (text.length - 1 : Nat)) then
        Decimal.positional text e ++ (if layout.showFraction ∧ 0 ≤ e then ['.', '0'] else [])
      else Decimal.scientific text e
    String.ofList (Decimal.sign negative ++ body)

end Montage.Binary64

/-!
Floating point as a kind of number.
-/

namespace Montage.Binary64

instance : LE Binary64 := ⟨fun x y => x.le y⟩

instance : LT Binary64 := ⟨fun x y => x.lt y⟩

instance : Scalar Binary64 where
  zero := ofUnits false 0 1
  one := ofNat 1
  natCast := ofNat
  ofScientific m negative e := ofDecimal false m (if negative then -(e : Int) else e)
  add := add
  sub := sub
  mul := mul
  div := div
  decidableLE x y := inferInstanceAs (Decidable (x.le y = true))
  decidableLT x y := inferInstanceAs (Decidable (x.lt y = true))
  precedes x y := decide (x.rank ≤ y.rank)
  nearest := nearest
  ceiling := ceiling
  reading := reading
  shortest := print .bare

end Montage.Binary64
