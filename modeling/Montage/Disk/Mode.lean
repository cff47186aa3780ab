import Montage.Disk.Basic

/-!
Modes: who may do what with a file, as numbers, as changes to what was before, and as letters.
-/

namespace Montage.Mode

/-- The value of octal digits, if they are no more than a mode can hold. -/
def octal? (cs : List Char) : Option Nat :=
  if cs.isEmpty || !cs.all fun c => '0' ≤ c && c ≤ '7' then none
  else
    let n := cs.foldl (fun n c => n * 8 + (c.toNat - 48)) 0
    if n ≤ 0o7777 then some n else none

/-- What a change does with the bits it names. -/
inductive Change
  | add
  | remove
  | assign

/-- The bits of those a change is about. -/
def whoBits (c : Char) : Option Nat :=
  match c with
  | 'u' => some 0o4700
  | 'g' => some 0o2070
  | 'o' => some 0o1007
  | 'a' => some 0o7777
  | _ => none

/-- The bits of a permission, for all. -/
def permissionBits (isDirectory : Bool) (old : Nat) (c : Char) : Option Nat :=
  match c with
  | 'r' => some 0o444
  | 'w' => some 0o222
  | 'x' => some 0o111
  | 'X' => some (if isDirectory || old &&& 0o111 ≠ 0 then 0o111 else 0)
  | 's' => some 0o6000
  | 't' => some 0o1000
  | 'u' => some (old / 64 % 8 * 0o111)
  | 'g' => some (old / 8 % 8 * 0o111)
  | 'o' => some (old % 8 * 0o111)
  | _ => none

def without (a b : Nat) : Nat :=
  a - (a &&& b)

/-- The mode after changes to the bits of some, one after another. -/
def changed? (isDirectory : Bool) (who : Nat) (kept : Nat) :
    Nat → Nat → List Char → Option Nat
  | 0, _, _ => none
  | _ + 1, mode, [] => some mode
  | fuel + 1, mode, c :: rest => do
    let change ← match c with
      | '+' => some Change.add
      | '-' => some Change.remove
      | '=' => some Change.assign
      | _ => none
    let isLetter (c : Char) : Bool := (permissionBits isDirectory mode c).isSome
    let letters := rest.takeWhile isLetter
    let bits := (letters.filterMap (permissionBits isDirectory mode)).foldl (· ||| ·) 0
    let bits := without (bits &&& who) kept
    let mode := match change with
      | .add => mode ||| bits
      | .remove => without mode bits
      | .assign => without mode (without (who &&& 0o7777) kept) ||| bits
    changed? isDirectory who kept fuel mode (rest.drop letters.length)

/-- One part of a symbolic mode. Where it does not say whose bits it is about, it is about those
that the mask leaves. -/
def clause? (isDirectory : Bool) (mask mode : Nat) (cs : List Char) : Option Nat :=
  let letters := cs.takeWhile fun c => (whoBits c).isSome
  let who := (letters.filterMap whoBits).foldl (· ||| ·) 0
  let rest := cs.drop letters.length
  if rest.isEmpty then none
  else if letters.isEmpty then changed? isDirectory 0o7777 mask (rest.length + 1) mode rest
  else changed? isDirectory who 0 (rest.length + 1) mode rest

def clauses? (isDirectory : Bool) (mask : Nat) : List (List Char) → Nat → Option Nat
  | [], mode => some mode
  | first :: rest, mode =>
    (clause? isDirectory mask mode first).bind (clauses? isDirectory mask rest)

/-- The mode that a text asks for. -/
def after? (text : List Char) (isDirectory : Bool) (mask mode : Nat) : Option Nat :=
  if text.head?.any Char.isDigit then octal? text
  else clauses? isDirectory mask (Text.splitOn (· = ',') text) mode

/-- A mode as nine letters. -/
def letters (mode : Nat) : List Char :=
  let three (bits : Nat) (special : Bool) (mark : Char) : List Char :=
    let run := bits % 2 = 1
    [if bits / 4 % 2 = 1 then 'r' else '-', if bits / 2 % 2 = 1 then 'w' else '-',
      if special then (if run then mark else mark.toUpper) else if run then 'x' else '-']
  three (mode / 64) (mode / 2048 % 2 = 1) 's' ++ three (mode / 8) (mode / 1024 % 2 = 1) 's' ++
    three mode (mode / 512 % 2 = 1) 't'

/-- A number in at least so many octal digits. -/
def octal (width n : Nat) : List Char :=
  let digits := Nat.toDigits 8 n
  List.replicate (width - digits.length) '0' ++ digits

end Montage.Mode

namespace Montage.Disk

/-- The mode of whatever is under a name. All directories have the same. -/
def modeOf (d : Disk) : Entry → Nat
  | .file id => (d.content id).mode
  | .directory _ => 0o755
  | .link _ => 0o777

/-- A file with another mode. Directories keep theirs. -/
def setMode (d : Disk) (mode : Nat) : Entry → Disk
  | .file id => { d with files := d.files.set id { d.content id with mode := mode } }
  | _ => d

/-- How many names lead to a file. -/
def linkCount (d : Disk) (id : Nat) : Nat :=
  (d.places.filter fun place =>
    match d.root.find? place with
    | some (.file other) => other = id
    | _ => false).length

end Montage.Disk
