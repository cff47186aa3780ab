import Montage.Number.Floating

/-!
Numbers written with a power: of ten after a given count of digits, whichever of the two usual
layouts is shorter, and of two after hexadecimal digits.
-/

namespace Montage.Decimal

/-- The digits of a magnitude, one before the point and `places` after it, as a whole number, and
the power of ten they are multiplied by. -/
def significant (places num den : Nat) : Nat × Int :=
  if num = 0 then (0, 0)
  else
    let power := Binary64.decade num den
    let shift : Int := places - power
    let m := if 0 ≤ shift then roundDiv .toEven (num * pow10 shift.natAbs) den
      else roundDiv .toEven num (den * pow10 shift.natAbs)
    if pow10 (places + 1) ≤ m then (m / 10, power + 1) else (m, power)

def power (letter : Char) (n : Int) : List Char :=
  letter :: (if n < 0 then '-' else '+') :: padded 2 n.natAbs

/-- A first digit and the others after a point, which can stand there without any. -/
def withPoint (pointed : Bool) : List Char → List Char
  | [] => []
  | d :: rest => if rest.isEmpty && !pointed then [d] else d :: '.' :: rest

/-- `places` digits after the point and a power of ten. -/
def exponentChars (places : Nat) (pointed : Bool) (num den : Nat) : List Char :=
  let (m, n) := significant places num den
  withPoint pointed (padded (places + 1) m) ++ power 'e' n

/-- Without the zeros at the end of a fraction. -/
def withoutZeros (cs : List Char) : List Char :=
  if cs.contains '.' then
    let rest := cs.reverse.dropWhile (· = '0')
    (if rest.head? = some '.' then rest.drop 1 else rest).reverse
  else cs

/-- So many digits in all, with a power of ten when it is far from zero. Zeros that end a fraction
are left out, unless everything is asked for. -/
def generalChars (count : Nat) (all : Bool) (num den : Nat) : List Char :=
  let count := max count 1
  let (m, n) := significant (count - 1) num den
  if n < -4 ∨ (count : Int) ≤ n then
    let lead := withPoint all (padded count m)
    (if all then lead else withoutZeros lead) ++ power 'e' n
  else
    let places := ((count : Int) - 1 - n).toNat
    let units := roundDiv .toEven (num * pow10 places) den
    let cs := pointed places units
    if all then (if places = 0 then cs ++ ['.'] else cs) else withoutZeros cs

end Montage.Decimal

namespace Montage.Binary64

/-- The bits of a magnitude before and after the point, and the power of two. -/
def hexParts (units : Nat) : Nat × Nat × Int :=
  let top := Nat.log2 units
  if units = 0 then (0, 0, 0)
  else if top < 52 then (0, units, -1022)
  else (1, units / pow2 (top - 52) - pow2 52, (top : Int) - 1074)

/-- A magnitude in units by hexadecimal digits and a power of two. Without a count of places as many
as it needs are written. -/
def hexChars (places : Option Nat) (pointed : Bool) (units : Nat) : List Char :=
  let (lead, fraction, n) := hexParts units
  let width (count m : Nat) : List Char :=
    let text := Nat.toDigits 16 m
    List.replicate (count - text.length) '0' ++ text
  let (lead, digits) := match places with
    | none => (lead, ((width 13 fraction).reverse.dropWhile (· = '0')).reverse)
    | some places =>
      if 13 ≤ places then (lead, width 13 fraction ++ List.replicate (places - 13) '0')
      else
        let rounded := Decimal.roundDiv .toEven (lead * pow2 52 + fraction)
          (pow2 (52 - 4 * places))
        let unit := pow2 (4 * places)
        (rounded / unit, if places = 0 then [] else width places (rounded % unit))
  let point := if digits.isEmpty && !pointed then [] else ['.']
  ['0', 'x'] ++ Nat.toDigits 16 lead ++ point ++ digits ++
    'p' :: (if n < 0 then '-' else '+') :: Decimal.digits n.natAbs

end Montage.Binary64
