import Montage.Number.Binary64

/-!
Reading numbers that people and programs write.
-/

namespace Montage.Numeral

def digitValue (c : Char) : Nat :=
  c.toNat - 48

/-- The value of a run of decimal digits. -/
def value (digits : List Char) : Nat :=
  digits.foldl (fun n c => n * 10 + digitValue c) 0

/-- A leading sign and the rest. -/
def signed : List Char → Bool × List Char
  | '-' :: rest => (true, rest)
  | '+' :: rest => (false, rest)
  | cs => (false, cs)

/-- The power of ten that may end a number. -/
def exponent? : List Char → Option Int
  | [] => some 0
  | c :: rest =>
    if c = 'e' ∨ c = 'E' then
      let (negative, digits) := signed rest
      if digits.isEmpty ∨ !digits.all Char.isDigit then none
      else some (if negative then -(value digits : Int) else value digits)
    else none

/-- A number with an optional sign, point and power of ten, or one of the names of infinity and of
what is no number. Nothing may surround it. -/
def real? (cs : List Char) : Option Binary64 :=
  let (negative, body) := signed cs
  let name := String.ofList (body.map Char.toLower)
  if name = "inf" ∨ name = "infinity" then some (.infinite negative)
  else if name = "nan" then some (.nan negative)
  else
    let whole := body.takeWhile Char.isDigit
    let afterWhole := body.dropWhile Char.isDigit
    let (fraction, rest) := match afterWhole with
      | '.' :: more => (more.takeWhile Char.isDigit, more.dropWhile Char.isDigit)
      | more => ([], more)
    if whole.isEmpty ∧ fraction.isEmpty then none
    else (exponent? rest).map fun e =>
      .ofDecimal negative (value (whole ++ fraction)) (e - fraction.length)

/-- Digits, after at most one plus sign, of a number below `limit`. -/
def natural? (limit : Nat) (cs : List Char) : Option Nat :=
  let digits := match cs with
    | '+' :: rest => rest
    | cs => cs
  if digits.isEmpty ∨ !digits.all Char.isDigit then none
  else if value digits < limit then some (value digits)
  else none

end Montage.Numeral

/-!
The floating point number that a text begins with. After it anything may follow.
-/

namespace Montage.Numeral

/-- A number at the beginning of a text, and what follows it. -/
structure Leading where
  value : Binary64
  rest : List Char
  /-- The number is too large or too small for its kind. -/
  outOfRange : Bool

def isSpace (c : Char) : Bool :=
  c = ' ' || ('\t' ≤ c && c ≤ '\r')

def isHex (c : Char) : Bool :=
  c.isDigit || ('a' ≤ c.toLower && c.toLower ≤ 'f')

def hexDigit (c : Char) : Nat :=
  if c.isDigit then c.toNat - 48 else c.toLower.toNat - 87

/-- Digits, with a point among them: those before it, those after it, and the rest. -/
def pointed (isDigit : Char → Bool) (cs : List Char) : List Char × List Char × List Char :=
  let whole := cs.takeWhile isDigit
  match cs.dropWhile isDigit with
  | '.' :: more =>
    if whole.isEmpty && !(more.head?.any isDigit) then ([], [], cs)
    else (whole, more.takeWhile isDigit, more.dropWhile isDigit)
  | rest => (whole, [], rest)

/-- A power after a letter, if digits follow; none otherwise. -/
def leadingPower (letter : Char) (cs : List Char) : Int × List Char :=
  match cs with
  | [] => (0, [])
  | c :: rest =>
    let (negative, digits) := signed rest
    let taken := digits.takeWhile Char.isDigit
    if c.toLower ≠ letter || taken.isEmpty then (0, cs)
    else (if negative then -(value taken : Int) else value taken, digits.drop taken.length)

def startsWithName (name : String) (cs : List Char) : Bool :=
  name.toList.isPrefixOf (cs.map Char.toLower)

/-- The name of what is no number may have a text in parentheses. -/
def afterNan (cs : List Char) : List Char :=
  match cs with
  | '(' :: rest =>
    match rest.dropWhile fun c => c.isAlphanum || c = '_' with
    | ')' :: rest => rest
    | _ => cs
  | cs => cs

/-- `m * 2 ^ n`, where large powers need no exact value. -/
def timesPower (negative : Bool) (m : Nat) (n : Int) : Binary64 :=
  if m = 0 || n < -1200 - 4 * (m.log2 : Int) then .ofUnits negative 0 1
  else if 0 ≤ n then
    if 1100 < n then .infinite negative else .ofRatio negative (m * pow2 n.natAbs) 1
  else .ofRatio negative m (pow2 n.natAbs)

/-- A value is settled, and out of range when it is infinite or has lost its precision. -/
def settled (x : Binary64) (isZero : Bool) (rest : List Char) : Leading :=
  let lost := match x with
    | .infinite _ => true
    | .finite _ units _ => !isZero && units < pow2 52
    | .nan _ => false
  ⟨x, rest, lost⟩

/-- The number that a text begins with, after blanks and a sign: decimal, hexadecimal, or one of the
names of infinity and of what is no number. -/
def leadingReal? (cs : List Char) : Option Leading :=
  let (negative, body) := signed (cs.dropWhile isSpace)
  if startsWithName "infinity" body then some ⟨.infinite negative, body.drop 8, false⟩
  else if startsWithName "inf" body then some ⟨.infinite negative, body.drop 3, false⟩
  else if startsWithName "nan" body then some ⟨.nan negative, afterNan (body.drop 3), false⟩
  else
    let (hexWhole, hexFraction, afterHex) := pointed isHex (body.drop 2)
    if startsWithName "0x" body && !(hexWhole.isEmpty && hexFraction.isEmpty) then
      let (power, rest) := leadingPower 'p' afterHex
      let m := (hexWhole ++ hexFraction).foldl (fun n c => n * 16 + hexDigit c) 0
      some (settled (timesPower negative m (power - 4 * hexFraction.length)) (m = 0) rest)
    else
      let (whole, fraction, after) := pointed Char.isDigit body
      if whole.isEmpty && fraction.isEmpty then none
      else
        let (power, rest) := leadingPower 'e' after
        let m := value (whole ++ fraction)
        some (settled (.ofDecimal negative m (power - fraction.length)) (m = 0) rest)

end Montage.Numeral
