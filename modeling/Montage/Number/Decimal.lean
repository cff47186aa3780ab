import Montage.Number.Power
import Montage.Number.Scalar

/-!
Decimal text: rounding a quotient, fixed places, and the two layouts of a digit string with an
exponent.
-/

namespace Montage.Decimal

/-- Where an exact half goes. -/
inductive Tie
  | toEven
  | up
  deriving DecidableEq

/-- The whole number nearest to `n / d`. -/
def roundDiv (tie : Tie) (n d : Nat) : Nat :=
  let q := n / d
  let r := n % d
  if 2 * r < d then q
  else if d < 2 * r then q + 1
  else match tie with
    | .toEven => q + q % 2
    | .up => q + 1

theorem roundDiv_le (tie : Tie) (n d : Nat) : roundDiv tie n d ≤ n / d + 1 := by
  unfold roundDiv
  dsimp only
  split
  · omega
  · split
    · omega
    · cases tie
      · have : n / d % 2 < 2 := Nat.mod_lt _ (by decide)
        dsimp only
        omega
      · exact Nat.le_refl _

theorem le_roundDiv (tie : Tie) (n d : Nat) : n / d ≤ roundDiv tie n d := by
  unfold roundDiv
  dsimp only
  split
  · exact Nat.le_refl _
  · split
    · omega
    · cases tie <;> dsimp only <;> omega

def digitChar (d : Nat) : Char :=
  Char.ofNat (48 + d)

/-- The decimal digits of `n`, most significant first. -/
def digits (n : Nat) : List Char :=
  if n < 10 then [digitChar n] else digits (n / 10) ++ [digitChar (n % 10)]

/-- `n` in at least `width` digits. -/
def padded (width n : Nat) : List Char :=
  let text := digits n
  List.replicate (width - text.length) '0' ++ text

def sign (negative : Bool) : List Char :=
  if negative then ['-'] else []

def natural (n : Nat) : String :=
  String.ofList (digits n)

def integer (n : Int) : String :=
  String.ofList (sign (n < 0) ++ digits n.natAbs)

/-- A count of units of `10 ^ -places`, written with a point. -/
def pointed (places units : Nat) : List Char :=
  if places = 0 then digits units
  else digits (units / pow10 places) ++ '.' :: padded places (units % pow10 places)

/-- `places` digits after the point, never an exponent; a half goes to the even neighbour. -/
def fixedChars (places : Nat) : Reading → List Char
  | .nan => ['N', 'a', 'N']
  | .infinite negative => sign negative ++ ['i', 'n', 'f']
  | .finite negative num den =>
    sign negative ++ pointed places (roundDiv .toEven (num * pow10 places) den)

def fixed (places : Nat) (r : Reading) : String :=
  String.ofList (fixedChars places r)

/-- `digits × 10 ^ exponent` without an exponent and without a bare fraction of zero. -/
def positional (text : List Char) (exponent : Int) : List Char :=
  match exponent with
  | .ofNat zeros => text ++ List.replicate zeros '0'
  | .negSucc n =>
    let places := n + 1
    if places < text.length then
      text.take (text.length - places) ++ '.' :: text.drop (text.length - places)
    else
      '0' :: '.' :: List.replicate (places - text.length) '0' ++ text

/-- `digits × 10 ^ exponent` as one digit, the rest after a point, and a signed power of ten. -/
def scientific (text : List Char) (exponent : Int) : List Char :=
  let power := exponent + (text.length - 1 : Nat)
  let head := match text with
    | [] => []
    | [d] => [d]
    | d :: rest => d :: '.' :: rest
  head ++ 'e' :: (if power < 0 then '-' else '+') :: digits power.natAbs

end Montage.Decimal

/-!
Numbers as filter arguments show them.
-/

namespace Montage.Scalar

variable {α : Type} [Scalar α]

/-- `places` digits after the point. -/
def fixed (places : Nat) (x : α) : String :=
  Decimal.fixed places (reading x)

def dropTrailing (c : Char) (cs : List Char) : List Char :=
  (cs.reverse.dropWhile (· = c)).reverse

/-- A count of seconds with at most six decimals, no trailing zero and no sign on zero. -/
def seconds (x : α) : String :=
  let text := dropTrailing '.' (dropTrailing '0' (Decimal.fixedChars 6 (reading x)))
  if text = [] ∨ text = ['-'] ∨ text = ['-', '0'] then "0" else String.ofList text

end Montage.Scalar
