import Montage.Utility.Input

/-!
Bytes shown as numbers and characters, and as text that goes through any channel.
-/

namespace Montage.Utility

open Shell

namespace Dump

/-- How a piece of some bytes is shown. -/
inductive Form
  | octal
  | hex
  | unsigned
  | signed
  | char
  | name

/-- A form, the bytes of a piece, and whether the line ends with its characters. -/
structure Column where
  form : Form
  size : Nat
  traced : Bool

/-- The characters that a piece takes at most. -/
def Column.width (c : Column) : Nat :=
  let by_ (a b c' d : Nat) : Nat :=
    match c.size with
    | 1 => a
    | 2 => b
    | 4 => c'
    | _ => d
  match c.form with
  | .octal => by_ 3 6 11 22
  | .hex => by_ 2 4 8 16
  | .unsigned => by_ 3 5 10 20
  | .signed => by_ 4 6 11 20
  | .char | .name => 3

/-- The names of characters that cannot be seen. -/
def controlNames : List String :=
  ["nul", "soh", "stx", "etx", "eot", "enq", "ack", "bel", "bs", "ht", "nl", "vt", "ff", "cr",
    "so", "si", "dle", "dc1", "dc2", "dc3", "dc4", "nak", "syn", "etb", "can", "em", "sub", "esc",
    "fs", "gs", "rs", "us", "sp"]

def nameOf (n : Nat) : String :=
  let n := n % 128
  if n = 127 then "del" else (controlNames[n]?).getD (String.ofList [Char.ofNat n])

/-- A character, or the escape for it without what all of them begin with. -/
def charOf (n : Nat) : String :=
  let c := Char.ofNat n
  if n = 0 then "\\0"
  else if 32 ≤ n && n < 127 then String.ofList [c]
  else if 7 ≤ n && n ≤ 13 then
    String.ofList ['\\', "abtnvfr".toList.getD (n - 7) ' ']
  else
    let digits := Nat.toDigits 8 n
    String.ofList (List.replicate (3 - digits.length) '0' ++ digits)

/-- The number of some bytes, the lowest first. -/
def numberOf (bytes : Text.Bytes) : Nat :=
  bytes.foldr (fun b n => n * 256 + b.toNat) 0

def Column.shown (c : Column) (bytes : Text.Bytes) : List Char :=
  let n := numberOf bytes
  let padded (digits : List Char) : List Char :=
    List.replicate (c.width - digits.length) '0' ++ digits
  match c.form with
  | .octal => padded (Nat.toDigits 8 n)
  | .hex => padded (Nat.toDigits 16 n)
  | .unsigned => Decimal.digits n
  | .signed =>
    let limit := Nat.pow 256 c.size
    if n < limit / 2 then Decimal.digits n else '-' :: Decimal.digits (limit - n)
  | .char => (charOf n).toList
  | .name => (nameOf n).toList

/-- The pieces of some bytes. -/
def piecesOf (size : Nat) : Nat → Text.Bytes → List Text.Bytes
  | 0, _ | _, [] => []
  | fuel + 1, bytes => bytes.take size :: piecesOf size fuel (bytes.drop size)

/-- How wide a whole line of a column is. -/
def Column.lineWidth (c : Column) (length : Nat) : Nat :=
  length / c.size * (c.width + 1)

/-- A line of a column, with blanks between the pieces so that all columns are as wide as the widest
one. -/
def Column.line (c : Column) (length widest : Nat) (bytes : Text.Bytes) : List Char :=
  let count := length / c.size
  let spare := widest - c.lineWidth length
  let pieces := (piecesOf c.size (bytes.length + 1) bytes).zipIdx
  let shown := pieces.flatMap fun (piece, i) =>
    let left := spare * (count - i) / count
    let next := spare * (count - i - 1) / count
    padLeft (c.width + 1 + (left - next)) (c.shown piece)
  if !c.traced then shown
  else
    let trace := bytes.map fun b => if 32 ≤ b && b < 127 then Char.ofNat b.toNat else '.'
    shown ++ List.replicate (widest - shown.length) ' ' ++ [' ', ' ', '>'] ++ trace ++ ['<']

/-- The base of addresses and the fewest digits they have; none for no addresses. -/
abbrev Radix := Option (Nat × Nat)

def address (radix : Radix) (n : Nat) : List Char :=
  match radix with
  | none => []
  | some (base, width) =>
    let digits := Nat.toDigits base n
    List.replicate (width - digits.length) '0' ++ digits

def radix? (text : String) : Option Radix :=
  match text with
  | "d" => some (some (10, 7))
  | "o" => some (some (8, 7))
  | "x" => some (some (16, 6))
  | "n" => some none
  | _ => none

/-- Whether so many bytes can be taken for one number. -/
def isSize (count : Nat) : Bool :=
  [1, 2, 4, 8].contains count

/-- The columns that a text asks for; a letter that means nothing otherwise. -/
def columns (text : List Char) : Nat → List Char → Except Char (List Column)
  | 0, _ | _, [] => .ok []
  | fuel + 1, letter :: rest => do
    let form ← match letter with
      | 'o' => .ok Form.octal
      | 'x' => .ok Form.hex
      | 'u' => .ok Form.unsigned
      | 'd' => .ok Form.signed
      | 'c' => .ok Form.char
      | 'a' => .ok Form.name
      | c => .error c
    let isNumber := letter ≠ 'c' && letter ≠ 'a'
    let digits := rest.takeWhile Char.isDigit
    let (size, rest) :=
      if !isNumber then (1, rest)
      else if !digits.isEmpty then (Numeral.value digits, rest.drop digits.length)
      else match rest with
        | 'C' :: rest => (1, rest)
        | 'S' :: rest => (2, rest)
        | 'I' :: rest => (4, rest)
        | 'L' :: rest => (8, rest)
        | rest => (4, rest)
    let (traced, rest) := match rest with
      | 'z' :: rest => (true, rest)
      | rest => (false, rest)
    if !isSize size then .error letter
    else .ok (⟨form, size, traced⟩ :: (← columns text fuel rest))

/-- The column that an option of one letter stands for. -/
def columnOf? (key : String) : Option Column :=
  match key with
  | "a" => some ⟨.name, 1, false⟩
  | "b" => some ⟨.octal, 1, false⟩
  | "c" => some ⟨.char, 1, false⟩
  | "D" => some ⟨.unsigned, 2, false⟩
  | "o" => some ⟨.octal, 2, false⟩
  | "x" | "h" => some ⟨.hex, 2, false⟩
  | "i" => some ⟨.signed, 4, false⟩
  | "s" => some ⟨.signed, 2, false⟩
  | "l" => some ⟨.signed, 8, false⟩
  | _ => none

/-- The columns that some options ask for. -/
def columnsOf (given : List Given) : Except (Char × String) (List Column) :=
  given.foldlM (fun found (key, value) =>
    match key, value with
    | "t", some text =>
      match columns text.toList (text.length + 1) text.toList with
      | .ok more => .ok (found ++ more)
      | .error c => .error (c, text)
    | _, _ => .ok (found ++ (columnOf? key).toList)) []

/-- The lines of some bytes. Where one is like the one before it a star takes its place, once. -/
def lines (columns : List Column) (radix : Radix) (length : Nat) (every : Bool) (start : Nat)
    (bytes : Text.Bytes) : List Char :=
  let widest := (columns.map fun c => c.lineWidth length).foldl max 0
  let rows := (piecesOf length (bytes.length + 1) bytes).zipIdx
  let lead := List.replicate (address radix 0).length ' '
  let row (bytes : Text.Bytes) (i : Nat) : List Char :=
    (columns.zipIdx).flatMap fun (c, j) =>
      (if j = 0 then address radix (start + i * length) else lead) ++
        c.line length widest bytes ++ ['\n']
  let (shown, _, _) := rows.foldl (fun (shown, last, starred) (bytes, i) =>
    if !every && bytes.length = length && last = some bytes then
      (if starred then shown else ['*', '\n'] :: shown, last, true)
    else (row bytes i :: shown, some bytes, false))
    (([] : List (List Char)), (none : Option Text.Bytes), false)
  let ending := match radix with
    | none => []
    | some _ => address radix (start + bytes.length) ++ ['\n']
  shown.reverse.flatten ++ ending

end Dump

/-- What files hold together, and whether one could be opened and all could be read. -/
def gathered (command : String) (names : List String) (s : State) :
    State × Text.Bytes × Bool :=
  let names := if names.isEmpty then ["-"] else names
  names.foldl (fun (s, bytes, opened) name =>
    match content s name with
    | .ok (s, more) => (s, bytes ++ more, true)
    | .error e =>
      let what := if name = "-" then quotedInput name ++ ": " ++ e.words else plainWording name e
      ((s.complain (command ++ ": " ++ what)).finish 1, bytes,
        opened || e = .isADirectory || e = .badStream)) (s, [], false)

/-- Shows bytes by their numbers. -/
def od : State → List String → State :=
  withOptions "od" (options "A:abcdDfhij:lN:osS:t:vw::x" [("address-radix=", "A"),
    ("skip-bytes=", "j"), ("read-bytes=", "N"), ("format=", "t"), ("output-duplicates", "v"),
    ("width?", "w"), ("strings?", "S")]) 1 fun s p =>
    let given := p.options.map fun (key, value) => (if key = "d" then "D" else key, value)
    let wrongNumber := ["j", "N", "w"].findSome? fun key =>
      ((p.value? key).filter fun text => (count? text.toList).isNone).map fun text => (key, text)
    match Dump.columnsOf given, Dump.radix? ((p.value? "A").getD "o"), wrongNumber with
    | .error (c, text), _, _ =>
      (s.complain ("od: invalid character '" ++ String.ofList [c] ++ "' in type string " ++
        quotedWord text)).finish 1
    | _, none, _ =>
      (s.complain ("od: invalid output address radix '" ++ (p.value? "A").getD "" ++
        "'; it must be one character from [doxn]")).finish 1
    | _, _, some (key, text) =>
      (s.complain ("od: invalid -" ++ key ++ " argument " ++ quotedWord text)).finish 1
    | .ok columns, some radix, none =>
      let number (key : String) : Option Nat := (p.value? key).bind fun text => count? text.toList
      let columns := if columns.isEmpty then [⟨.octal, 2, false⟩] else columns
      let length := if p.has "w" then (number "w").getD 32 else 16
      let (s, bytes, opened) := gathered "od" p.operands s
      let skipped := (number "j").getD 0
      if !opened then s
      else if bytes.length < skipped then
        (s.complain "od: cannot skip past end of combined input").finish 1
      else
        let bytes := bytes.drop skipped
        let bytes := match number "N" with
          | some most => bytes.take most
          | none => bytes
        put s (Dump.lines columns radix (max length 1) (p.has "v") skipped bytes)

/-! ### Bytes as text -/

/-- The digits to the base sixty-four. -/
def digits64 : List Char :=
  "ABCDEFGHIJKLMNOPQRSTUVWXYZabcdefghijklmnopqrstuvwxyz0123456789+/".toList

/-- Three bytes as four digits; what is missing at the end is told by equals signs. -/
def encode64 : Text.Bytes → List Char
  | a :: b :: c :: rest =>
    digit (a.toNat / 4) :: digit (a.toNat % 4 * 16 + b.toNat / 16) ::
      digit (b.toNat % 16 * 4 + c.toNat / 64) :: digit (c.toNat % 64) :: encode64 rest
  | [a, b] => [digit (a.toNat / 4), digit (a.toNat % 4 * 16 + b.toNat / 16),
      digit (b.toNat % 16 * 4), '=']
  | [a] => [digit (a.toNat / 4), digit (a.toNat % 4 * 16), '=', '=']
  | [] => []
where
  digit (n : Nat) : Char :=
    digits64.getD n 'A'

/-- The bytes that digits stand for, and whether nothing was wrong with them. -/
def decode64 : List Char → Text.Bytes × Bool
  | a :: b :: '=' :: '=' :: rest =>
    match value? a, value? b with
    | some a, some b => joined [UInt8.ofNat (a * 4 + b / 16)] (decode64 rest)
    | _, _ => ([], false)
  | a :: b :: c :: '=' :: rest =>
    match value? a, value? b, value? c with
    | some a, some b, some c =>
      joined [UInt8.ofNat (a * 4 + b / 16), UInt8.ofNat (b % 16 * 16 + c / 4)] (decode64 rest)
    | _, _, _ => ([], false)
  | a :: b :: c :: d :: rest =>
    match value? a, value? b, value? c, value? d with
    | some a, some b, some c, some d =>
      joined [UInt8.ofNat (a * 4 + b / 16), UInt8.ofNat (b % 16 * 16 + c / 4),
        UInt8.ofNat (c % 4 * 64 + d)] (decode64 rest)
    | _, _, _, _ => ([], false)
  | [] => ([], true)
  | [a, b] =>
    match value? a, value? b with
    | some a, some b => ([UInt8.ofNat (a * 4 + b / 16)], false)
    | _, _ => ([], false)
  | [a, b, c] =>
    match value? a, value? b, value? c with
    | some a, some b, some c =>
      ([UInt8.ofNat (a * 4 + b / 16), UInt8.ofNat (b % 16 * 16 + c / 4)], false)
    | _, _, _ => ([], false)
  | [_] => ([], false)
where
  value? (c : Char) : Option Nat :=
    digits64.findIdx? (· = c)
  joined (bytes : Text.Bytes) (rest : Text.Bytes × Bool) : Text.Bytes × Bool :=
    (bytes ++ rest.1, rest.2)

/-- The text in lines of some length. -/
def wrapped (width : Nat) : Nat → List Char → List Char
  | 0, _ | _, [] => []
  | fuel + 1, cs => cs.take width ++ '\n' :: wrapped width fuel (cs.drop width)

def base64 : State → List String → State :=
  withOptions "base64" (options "diw:" [("decode", "d"), ("ignore-garbage", "i"),
    ("wrap=", "w")]) 1 fun s p =>
    match p.operands, (p.value? "w").map fun text => (text, count? text.toList) with
    | _ :: extra :: _, _ => misused s "base64" ("extra operand " ++ quotedWord extra) 1
    | _, some (text, none) =>
      (s.complain ("base64: invalid wrap size: " ++ quotedWord text)).finish 1
    | operands, width =>
      let width := (width.bind (·.2)).getD 76
      let name := operands.head?.getD "-"
      match content s name with
      | .error e =>
        let what := if e = .isADirectory || e = .badStream then "read error: " ++ e.words
          else plainWording name e
        (s.complain ("base64: " ++ what)).finish 1
      | .ok (s, bytes) =>
        if p.has "d" then
          let kept (c : Char) : Bool :=
            c ≠ '\n' && (!p.has "i" || c = '=' || digits64.contains c)
          let (bytes, fine) := decode64 ((charsFrom bytes).filter kept)
          let s := s.write 1 bytes
          if fine then s else (s.complain "base64: invalid input").finish 1
        else
          let cs := encode64 bytes
          put s (if width = 0 then cs else wrapped width (cs.length + 1) cs)

end Montage.Utility
