import Montage.Number.Numeral

/-!
Roots, powers, logarithms and angles of floating point numbers. They are computed in units so small
that one rounding at the end gives the result.
-/

namespace Montage.Binary64

/-! ### Small units -/

/-- The places after the point of what is computed with, in the base of two. -/
def finePlaces : Nat :=
  2400

def fineOne : Int :=
  pow2 finePlaces

def fineProduct (a b : Int) : Int :=
  a * b / fineOne

def fineQuotient (a b : Int) : Int :=
  a * fineOne / b

/-- A magnitude in units as a number of fine units. -/
def fineOf (negative : Bool) (units : Nat) : Int :=
  let n : Int := units * pow2 (finePlaces - 1074)
  if negative then -n else n

def ofFine (n : Int) : Binary64 :=
  .ofUnits (n < 0) (n.natAbs * one) (pow2 finePlaces)

/-- Improves a bound of a root from above, as long as it gets smaller. -/
def lowerRoot (n : Nat) : Nat → Nat → Nat
  | 0, x => x
  | fuel + 1, x =>
    let y := (x + n / x) / 2
    if y < x then lowerRoot n fuel y else x

/-- The largest number whose square is not above `n`. -/
def floorRoot (n : Nat) : Nat :=
  if n = 0 then 0 else lowerRoot n (n.log2 + 2) (pow2 (n.log2 / 2 + 1))

/-- The sum of a series: `next` gives the term after the one with a number. It ends with a term of
which nothing is left. -/
def series (next : Nat → Int → Int) : Nat → Nat → Int → Int
  | 0, _, _ => 0
  | fuel + 1, k, term => if term = 0 then 0 else term + series next fuel (k + 1) (next k term)

/-- More terms than any series here needs. -/
def seriesFuel : Nat :=
  4000

/-- The sum of the odd powers of `y` with the odd numbers under them, with changing signs or not. -/
def oddSeries (changing : Bool) (y : Int) : Int :=
  let square := fineProduct y y
  -- Each term is kept as a power, and divided when it is added.
  let rec sum : Nat → Nat → Int → Int
    | 0, _, _ => 0
    | fuel + 1, k, power =>
      if power = 0 then 0
      else
        let term := power.tdiv (2 * k + 1)
        let next := (power * square).tdiv fineOne
        term + sum fuel (k + 1) (if changing then -next else next)
  sum seriesFuel 0 y

def fineLogTwo : Int :=
  2 * oddSeries false (fineOne / 3)

/-- Half the circumference of the circle with radius one. -/
def finePi : Int :=
  4 * (4 * oddSeries true (fineOne / 5) - oddSeries true (fineOne / 239))

/-! ### Roots, powers and logarithms -/

/-- The square root. -/
def squareRoot : Binary64 → Binary64
  | .nan negative => .nan negative
  | .infinite negative => if negative then .nan true else .infinite false
  | .finite negative units h =>
    if units = 0 then .finite negative units h
    else if negative then .nan true
    else
      let square := units * one * pow2 256
      let root := floorRoot square
      -- What is left of the root is told by one more place.
      let more := if root * root = square then 0 else 1
      .ofUnits false (2 * root + more) (pow2 129)

/-- The exponential of a number of fine units. -/
def expFine (n : Int) : Binary64 :=
  if 2048 * fineOne < n then .infinite false
  else if n < -2048 * fineOne then .ofNat 0
  else
    let twos := n / fineLogTwo
    let rest := n - twos * fineLogTwo
    let value := series (fun k term => (term * rest).tdiv (fineOne * (k + 1))) seriesFuel 0 fineOne
    Numeral.timesPower false value.toNat (twos - finePlaces)

def exp : Binary64 → Binary64
  | .nan negative => .nan negative
  | .infinite negative => if negative then .ofNat 0 else .infinite false
  | .finite negative units _ => expFine (fineOf negative units)

/-- The logarithm of a magnitude in units, in fine units. -/
def logFine (units : Nat) : Int :=
  let e := units.log2
  let m : Int := units * fineOne / pow2 e
  2 * oddSeries false (fineQuotient (m - fineOne) (m + fineOne)) + (e - 1074) * fineLogTwo

def log : Binary64 → Binary64
  | .nan negative => .nan negative
  | .infinite negative => if negative then .nan true else .infinite false
  | .finite negative units _ =>
    if units = 0 then .infinite true
    else if negative then .nan true
    else ofFine (logFine units)

/-- A magnitude in units to a whole power. -/
def wholePower (negative : Bool) (units n : Nat) (inverse : Bool) : Binary64 :=
  let even := Nat.gcd units (pow2 units.log2)
  let base := Nat.pow (units / even) n
  let twos : Int := ((even.log2 : Int) - 1074) * n
  if inverse then
    let places := base.log2 + 130
    let quotient := pow2 places / base
    let more := if quotient * base = pow2 places then 0 else 1
    Numeral.timesPower negative (2 * quotient + more) (-twos - places - 1)
  else Numeral.timesPower negative base twos

/-- The greatest exponent for which a power is computed by multiplication. -/
def exactPower : Nat :=
  1024

def isOne : Binary64 → Bool
  | .finite negative units _ => !negative && units = one
  | _ => false

def isZero : Binary64 → Bool
  | .finite _ units _ => units = 0
  | _ => false

/-- Whether a magnitude in units is a whole number, and an odd one. -/
def isOdd (units : Nat) : Bool :=
  units % one = 0 && units / one % 2 = 1

/-- A power. -/
def power (x y : Binary64) : Binary64 :=
  if y.isZero || x.isOne then .ofNat 1
  else match x, y with
    | .nan negative, _ => .nan negative
    | _, .nan negative => .nan negative
    | .infinite _, .infinite falling => if falling then .ofNat 0 else .infinite false
    | .infinite negative, .finite falling units _ =>
      let sign := negative && isOdd units
      if falling then .ofUnits sign 0 1 else .infinite sign
    | .finite _ units _, .infinite falling =>
      if units = one then .ofNat 1
      else if (units < one) = falling then .infinite false
      else .ofNat 0
    | .finite negative units _, .finite falling exponent _ =>
      let sign := negative && isOdd exponent
      let whole := exponent % one = 0
      if units = 0 then if falling then .infinite sign else .ofUnits sign 0 1
      else if whole && exponent / one ≤ exactPower then
        wholePower sign units (exponent / one) falling
      else if negative && !whole then .nan true
      else
        let size := expFine (fineProduct (logFine units) (fineOf falling exponent))
        if sign then size.negate else size

/-- What is left after a whole number of times another magnitude, with the sign of the first. -/
def remainder : Binary64 → Binary64 → Binary64
  | .nan negative, _ => .nan negative
  | _, .nan negative => .nan negative
  | .infinite _, _ => .nan true
  | .finite negative a h, .infinite _ => .finite negative a h
  | .finite negative a _, .finite _ b _ => if b = 0 then .nan true else .ofUnits negative (a % b) 1

/-- The whole part. -/
def truncated : Binary64 → Binary64
  | .finite negative units _ => .ofUnits negative (units / one * one) 1
  | x => x

/-! ### Angles -/

def sineFine (r : Int) : Int :=
  let square := fineProduct r r
  series (fun k term => (-(term * square)).tdiv (fineOne * ((2 * k + 2) * (2 * k + 3))))
    seriesFuel 0 r

def cosineFine (r : Int) : Int :=
  let square := fineProduct r r
  series (fun k term => (-(term * square)).tdiv (fineOne * ((2 * k + 1) * (2 * k + 2))))
    seriesFuel 0 fineOne

/-- The sine of an angle that has been turned by so many right angles. -/
def turnedSine (turns : Int) : Binary64 → Binary64
  | .nan negative => .nan negative
  | .infinite _ => .nan true
  | .finite negative units _ =>
    let right := finePi / 2
    let angle := fineOf negative units
    let quarters := (angle + right / 2) / right
    let rest := angle - quarters * right
    ofFine (match (quarters + turns) % 4 with
      | 0 => sineFine rest
      | 1 => cosineFine rest
      | 2 => -sineFine rest
      | _ => -cosineFine rest)

def sin (x : Binary64) : Binary64 :=
  turnedSine 0 x

def cos (x : Binary64) : Binary64 :=
  turnedSine 1 x

/-- The tangent of half the angle of a tangent. -/
def halvedTangent (t : Int) : Int :=
  fineQuotient t (fineOne + floorRoot (fineOne * fineOne + t * t).natAbs)

/-- The angle of a tangent between zero and one. -/
def angleOf (t : Int) : Int :=
  8 * oddSeries true (halvedTangent (halvedTangent (halvedTangent t)))

/-- The angle between a direction with a height and a width, neither below zero, and the level. -/
def steepness (y x : Nat) : Int :=
  if y ≤ x then if x = 0 then 0 else angleOf (y * fineOne / x)
  else finePi / 2 - angleOf (x * fineOne / y)

/-- The angle of a point, by its height and its width. -/
def angle (y x : Binary64) : Binary64 :=
  let turned (down left : Bool) (a : Int) : Binary64 :=
    let a := if left then finePi - a else a
    ofFine (if down then -a else a)
  match y, x with
  | .nan negative, _ => .nan negative
  | _, .nan negative => .nan negative
  | .infinite down, .infinite left => turned down left (finePi / 4)
  | .infinite down, .finite .. => turned down false (finePi / 2)
  | .finite down .., .infinite left => turned down left 0
  | .finite down a _, .finite left b _ => turned down left (steepness a b)

end Montage.Binary64
