import Montage.Number.Power

/-!
Bytes of texts. Reading is lenient: each longest run of bytes that cannot be completed to a
character reads as one replacement character.
-/

namespace Montage.Text

abbrev Bytes := List UInt8

def encode (text : String) : Bytes :=
  text.toUTF8.toList

def isContinuation (b : UInt8) : Bool :=
  0x80 ≤ b && b ≤ 0xBF

/-- How many bytes follow a first byte, and which second bytes it admits. -/
def follow (b : UInt8) : Option (Nat × UInt8 × UInt8) :=
  if 0xC2 ≤ b && b ≤ 0xDF then some (1, 0x80, 0xBF)
  else if b = 0xE0 then some (2, 0xA0, 0xBF)
  else if b = 0xED then some (2, 0x80, 0x9F)
  else if 0xE1 ≤ b && b ≤ 0xEF then some (2, 0x80, 0xBF)
  else if b = 0xF0 then some (3, 0x90, 0xBF)
  else if 0xF1 ≤ b && b ≤ 0xF3 then some (3, 0x80, 0xBF)
  else if b = 0xF4 then some (3, 0x80, 0x8F)
  else none

/-- The bytes after the first that continue a character. -/
def continued (count : Nat) (lo hi : UInt8) : Bytes → Bytes
  | [] => []
  | b :: rest =>
    if count = 0 then []
    else if lo ≤ b && b ≤ hi then b :: (rest.takeWhile isContinuation).take (count - 1)
    else []

def replacement : Char :=
  Char.ofNat 0xFFFD

/-- One character and the bytes it took after the first, or the failed run. -/
def decodeFirst (b : UInt8) (rest : Bytes) : Option Char × Nat :=
  if b < 0x80 then (some (Char.ofNat b.toNat), 0)
  else match follow b with
    | none => (none, 0)
    | some (count, lo, hi) =>
      let tail := continued count lo hi rest
      if tail.length = count then
        let lead := b.toNat % pow2 (6 - count)
        (some (Char.ofNat (tail.foldl (fun n c => n * 64 + c.toNat % 64) lead)), count)
      else (none, tail.length)

/-- The characters of the bytes, nothing standing for each run that is none. -/
def decodeRuns (bytes : Bytes) : List (Option Char) :=
  match bytes with
  | [] => []
  | b :: rest =>
    let (c, used) := decodeFirst b rest
    c :: decodeRuns (rest.drop used)
termination_by bytes.length
decreasing_by
  simp only [List.length_drop, List.length_cons]
  omega

def decodeLenient (bytes : Bytes) : String :=
  String.ofList ((decodeRuns bytes).map (·.getD replacement))

/-- The text, if every byte belongs to a character. -/
def decode? (bytes : Bytes) : Option String :=
  ((decodeRuns bytes).mapM id).map String.ofList

end Montage.Text
