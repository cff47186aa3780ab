import Montage.Json.Basic
import Montage.Json.Source

/-!
The values that JSON texts stand for. A text has no value when it is nested more than 127 levels
deep, when a number in it is out of range, or when a string in it holds half of a surrogate pair.
-/

namespace Montage.Json

namespace WrittenNumber

/-- Digits taken up into a number as long as it fits 64 bits, and how many are left over. -/
def absorb (n : Nat) : List Char → Nat × Nat
  | [] => (n, 0)
  | d :: rest =>
    let next := n * 10 + Numeral.digitValue d
    if next < pow2 64 then absorb next rest else (n, (d :: rest).length)

/-- `x * 10 ^ e`, or nothing when that is out of range. One multiplication or division does it
unless the number is very small. -/
def scaled? (x : Binary64) (e : Int) : Option Binary64 :=
  if e.natAbs ≤ 308 then
    let power := Binary64.ofDecimal false 1 e.natAbs
    let y := if 0 ≤ e then x * power else x / power
    if Scalar.isFinite y then some y else none
  else if Scalar.Same x 0 then some x
  else if 0 ≤ e then none
  else scaled? (x / Binary64.ofDecimal false 1 308) (e + 308)
termination_by e.natAbs
decreasing_by omega

/-- The value of a number. One that fits 64 bits stays whole, except for a negative zero. Of all
others, the digits that fit 64 bits count, rounded once and then scaled. -/
def value? (n : WrittenNumber) : Option Json :=
  let (mantissa, dropped) := absorb 0 n.whole
  if n.fraction.isEmpty ∧ n.power.isNone ∧ dropped = 0 ∧
      (if n.negative then mantissa ≠ 0 ∧ mantissa ≤ pow2 63 else True) then
    some (integer (if n.negative then -mantissa else mantissa))
  else
    let (mantissa, unused) := absorb mantissa n.fraction
    let e : Int := n.power.getD 0 + dropped - (n.fraction.length - unused : Nat)
    (scaled? (.ofNat mantissa) e).map fun x => real (if n.negative then x.negate else x)

end WrittenNumber

mutual

/-- The value of a text, when it is nested less than `depth` levels deep. -/
def ofSource? (depth : Nat) : Source → Option Json
  | .null => some null
  | .bool b => some (bool b)
  | .number n => n.value?
  | .string text => text.map string
  | .array items => if depth ≤ 1 then none else (ofItems? (depth - 1) items).map array
  | .object fields => if depth ≤ 1 then none else (ofFields? (depth - 1) fields).map object

def ofItems? (depth : Nat) : List Source → Option (List Json)
  | [] => some []
  | item :: rest => do
    let j ← ofSource? depth item
    some (j :: (← ofItems? depth rest))

def ofFields? (depth : Nat) : List (Option String × Source) → Option (List (String × Json))
  | [] => some []
  | (name, item) :: rest => do
    let name ← name
    let j ← ofSource? depth item
    some ((name, j) :: (← ofFields? depth rest))

end

/-- One more than the deepest nesting of a value. -/
def depthLimit : Nat :=
  128

/-- The value of a whole text, with its fields as they are written. -/
def parseChars? (cs : List Char) : Option Json :=
  (Source.ofText? cs).bind (ofSource? depthLimit)

/-- The value of a whole text, fields sorted by name and the last of each name kept. -/
def parse? (text : String) : Option Json :=
  (parseChars? text.toList).map sorted

/-- Whether a field of a record, if it is there, belongs to the record. Other fields are not read
beyond their names. -/
def concerns (names : List String) (field : Option String × Source) : Bool :=
  field.1.all names.contains

/-- A record from a text, with the fields of the given names. Each may stand once. -/
def parseRecord? (names : List String) (text : String) : Option Json := do
  match ← Source.ofText? text.toList with
  | .object fields =>
    let kept ← ofFields? (depthLimit - 1) (fields.filter (concerns names))
    if names.any fun name => 1 < kept.countP (·.1 = name) then none else some (object kept)
  | source => ofSource? depthLimit source

end Montage.Json
