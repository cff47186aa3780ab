import Montage.Number.Exponential
import Montage.Number.Numeral
import Montage.Shell.Arithmetic
import Montage.Shell.Bytes

/-!
Texts with escapes, and formats that arguments are written by.
-/

namespace Montage.Shell

/-- Characters named by a letter after a backslash. -/
def escapeLetter? : Char → Option Char
  | 'n' => some '\n'
  | 't' => some '\t'
  | 'r' => some '\r'
  | 'a' => some '\x07'
  | 'b' => some '\x08'
  | 'f' => some '\x0c'
  | 'v' => some '\x0b'
  | 'e' => some '\x1b'
  | '\\' => some '\\'
  | _ => none

def isOctal (c : Char) : Bool :=
  '0' ≤ c && c ≤ '7'

/-- What follows a backslash: the bytes it stands for, and the rest. Up to three octal digits are
one byte; a backslash before any other character stands for itself. -/
def escapeBytes (cs : List Char) : Text.Bytes × List Char :=
  let digits := (cs.takeWhile isOctal).take 3
  if digits.isEmpty then
    match cs with
    | [] => (bytesOf ['\\'], [])
    | c :: rest =>
      match escapeLetter? c with
      | some d => (bytesOf [d], rest)
      | none => (bytesOf ['\\'], c :: rest)
  else ([UInt8.ofNat (valueIn 8 digits)], cs.drop digits.length)

theorem escapeBytes_length (cs : List Char) : (escapeBytes cs).2.length ≤ cs.length := by
  unfold escapeBytes
  dsimp only
  split
  · cases cs with
    | nil => simp
    | cons c rest =>
      dsimp only
      split <;> simp
  · simp

/-- An octal escape of a text may begin with one more zero. -/
def withoutZero : List Char → List Char
  | '0' :: c :: rest => if isOctal c then c :: rest else '0' :: c :: rest
  | cs => cs

theorem withoutZero_length (cs : List Char) : (withoutZero cs).length ≤ cs.length := by
  unfold withoutZero
  split
  · split <;> simp
  · exact Nat.le_refl _

/-- The bytes of a text with escapes, and whether an escape in it ends all output. -/
def unescape (cs : List Char) : Text.Bytes × Bool :=
  match cs with
  | [] => ([], false)
  | c :: rest =>
    if c = '\\' then
      if rest.head? = some 'c' then ([], true)
      else
        let escape := escapeBytes (withoutZero rest)
        let (bytes, stopped) := unescape escape.2
        (escape.1 ++ bytes, stopped)
    else
      let (bytes, stopped) := unescape rest
      (bytesOf [c] ++ bytes, stopped)
termination_by cs.length
decreasing_by
  · have := escapeBytes_length (withoutZero rest)
    have := withoutZero_length rest
    simp only [List.length_cons]
    omega
  · simp

/-- A conversion: how an argument is written. -/
structure Conversion where
  flags : List Char
  width : Nat
  precision : Option Nat
  letter : Char

/-- What is left to write, and what has been found wrong. -/
structure Formatting where
  args : List String
  used : Bool
  stopped : Bool
  /-- Whether the format itself is wrong. -/
  failed : Bool
  faults : List String

namespace Formatting

def next (f : Formatting) : String × Formatting :=
  (f.args.head?.getD "", { f with args := f.args.drop 1, used := true })

def fault (f : Formatting) (what : String) : Formatting :=
  { f with faults := f.faults ++ [what] }

/-- What is wrong with an argument of which a rest is left that is no part of a number. -/
def checked (f : Formatting) (text : String) (rest : List Char) (outOfRange : Bool) : Formatting :=
  if !rest.isEmpty then
    f.fault (text ++ if rest.length = text.length then ": expected numeric value"
      else ": not completely converted")
  else if outOfRange then f.fault (text ++ ": Numerical result out of range")
  else f

/-- An argument as a number. A quote makes a number of the character after it. A number that is too
large is the largest one; without a sign (`isSigned`) that is so for both directions. -/
def number (f : Formatting) (isSigned : Bool) : Int × Formatting :=
  let (text, f) := f.next
  match text.toList with
  | '\x27' :: c :: _ | '\x22' :: c :: _ => (c.toNat, f)
  | ['\x27'] | ['\x22'] => (0, f)
  | cs =>
    let (n, rest) := leadingNumber cs
    let most : Int := if isSigned then pow2 63 - 1 else pow2 64 - 1
    let least : Int := if isSigned then -(pow2 63 : Int) else -most
    if n < least then (if isSigned then least else most, f.checked text rest true)
    else if most < n then (most, f.checked text rest true)
    else (n, f.checked text rest false)

def real (f : Formatting) : Binary64 × Formatting :=
  let (text, f) := f.next
  match text.toList with
  | '\x27' :: c :: _ | '\x22' :: c :: _ => (.ofNat c.toNat, f)
  | ['\x27'] | ['\x22'] => (.ofNat 0, f)
  | cs =>
    match Numeral.leadingReal? cs with
    | some found => (found.value, f.checked text found.rest found.outOfRange)
    | none => (.ofNat 0, f.checked text cs false)

/-- A width or precision: digits, or a star for the next argument. -/
def count (f : Formatting) (cs : List Char) : Int × Formatting × List Char :=
  match cs with
  | '*' :: rest =>
    let (n, f) := f.number true
    (Int.bmod n (pow2 32), f, rest)
  | cs => (valueIn 10 (cs.takeWhile Char.isDigit), f, cs.dropWhile Char.isDigit)

end Formatting

/-- Filled up to a width: with blanks, or with zeros after the sign and the mark of a base. -/
def pad (c : Conversion) (zeros : Bool) (lead cs : List Char) : List Char :=
  let missing := c.width - (lead.length + cs.length)
  if c.flags.contains '-' then lead ++ cs ++ List.replicate missing ' '
  else if zeros && c.flags.contains '0' then lead ++ List.replicate missing '0' ++ cs
  else List.replicate missing ' ' ++ lead ++ cs

def padBytes (c : Conversion) (bytes : Text.Bytes) : Text.Bytes :=
  let blanks := bytesOf (List.replicate (c.width - bytes.length) ' ')
  if c.flags.contains '-' then bytes ++ blanks else blanks ++ bytes

def signOf (c : Conversion) (negative : Bool) : List Char :=
  if negative then ['-']
  else if c.flags.contains '+' then ['+']
  else if c.flags.contains ' ' then [' ']
  else []

def withPrecision (c : Conversion) (digits : List Char) : List Char :=
  List.replicate (c.precision.getD 1 - digits.length) '0' ++ digits

def isRealLetter (c : Char) : Bool :=
  "aefgAEFG".toList.contains c

/-- A number as a conversion for whole numbers writes it. -/
def wholeChars (c : Conversion) (n : Int) : List Char :=
  let unsigned := unsigned n
  let marked := c.flags.contains '#' && n != 0
  let (lead, digits) := match c.letter with
    | 'x' => (if marked then ['0', 'x'] else [], Nat.toDigits 16 unsigned)
    | 'X' => (if marked then ['0', 'X'] else [], (Nat.toDigits 16 unsigned).map Char.toUpper)
    | 'o' => ([], (if marked then ['0'] else []) ++ Nat.toDigits 8 unsigned)
    | 'u' => ([], Nat.toDigits 10 unsigned)
    | _ => (signOf c (n < 0), Nat.toDigits 10 n.natAbs)
  let digits := if n = 0 && c.precision = some 0 then [] else digits
  pad c c.precision.isNone lead (withPrecision c digits)

/-- A magnitude in units as a conversion for floating point writes it. -/
def magnitudeChars (c : Conversion) (units : Nat) : List Char :=
  let all := c.flags.contains '#'
  let places := c.precision.getD 6
  match c.letter.toLower with
  | 'e' => Decimal.exponentChars places all units Binary64.one
  | 'g' => Decimal.generalChars places all units Binary64.one
  | 'a' => (Binary64.hexChars c.precision all units).drop 2
  | _ =>
    let whole := Decimal.roundDiv .toEven (units * pow10 places) Binary64.one
    Decimal.pointed places whole ++ (if all && places = 0 then ['.'] else [])

/-- A number as a conversion for floating point writes it. -/
def realChars (c : Conversion) (x : Binary64) : List Char :=
  let cs := match x with
    | .nan negative => pad c false (signOf c negative) ['n', 'a', 'n']
    | .infinite negative => pad c false (signOf c negative) ['i', 'n', 'f']
    | .finite negative units _ =>
      let base := if c.letter.toLower = 'a' then ['0', 'x'] else []
      pad c true (signOf c negative ++ base) (magnitudeChars c units)
  if c.letter.isUpper then cs.map Char.toUpper else cs

def convert (c : Conversion) (f : Formatting) : Text.Bytes × Formatting :=
  match c.letter with
  | 's' =>
    let (text, f) := f.next
    let bytes := pack text
    (padBytes c (bytes.take (c.precision.getD bytes.length)), f)
  | 'b' =>
    let (text, f) := f.next
    let (bytes, stopped) := unescape text.toList
    (padBytes c (bytes.take (c.precision.getD bytes.length)), { f with stopped := stopped })
  | 'c' =>
    let (text, f) := f.next
    (padBytes c [(pack text).headD 0], f)
  | letter =>
    if isRealLetter letter then
      let (x, f) := f.real
      (bytesOf (realChars c x), f)
    else
      let (n, f) := f.number (letter = 'd' || letter = 'i')
      (bytesOf (wholeChars c n), f)

def isConversion (c : Char) : Bool :=
  "sbcdiuoxX".toList.contains c || isRealLetter c

def isFormatFlag (c : Char) : Bool :=
  "-+ 0#".toList.contains c

/-- The conversion after a percent sign, and the rest of the format. -/
def conversion? (f : Formatting) (cs : List Char) :
    Option (Conversion × Formatting × List Char) :=
  let flags := cs.takeWhile isFormatFlag
  let (width, f, rest) := f.count (cs.drop flags.length)
  let (precision, f, rest) := match rest with
    | '.' :: rest =>
      let (n, f, rest) := f.count rest
      (if n < 0 then none else some n.toNat, f, rest)
    | rest => (none, f, rest)
  -- A width below zero asks for the left side.
  let flags := if width < 0 then '-' :: flags else flags
  match rest with
  | letter :: rest =>
    if isConversion letter then some (⟨flags, width.natAbs, precision, letter⟩, f, rest) else none
  | [] => none

/-- What may stand before the letter of a conversion. -/
def isDirectiveLead (c : Char) : Bool :=
  isFormatFlag c || c.isDigit || c = '.' || c = '*'

/-- The percent sign and what follows it up to a letter. -/
def directive (cs : List Char) : List Char :=
  let lead := cs.takeWhile isDirectiveLead
  '%' :: lead ++ (cs.drop lead.length).take 1

/-- One pass over a format. -/
def formatOnce : Nat → List Char → Formatting → Text.Bytes × Formatting
  | 0, _, f => ([], f)
  | _ + 1, [], f => ([], f)
  | fuel + 1, c :: rest, f =>
    if f.stopped then ([], f)
    else
      let more (bytes : Text.Bytes) (rest : List Char) (f : Formatting) :=
        let (later, f) := formatOnce fuel rest f
        (bytes ++ later, f)
      if c = '\\' then more (escapeBytes rest).1 (escapeBytes rest).2 f
      else if c ≠ '%' then more (bytesOf [c]) rest f
      else if rest.head? = some '%' then more (bytesOf ['%']) (rest.drop 1) f
      else match conversion? f rest with
        | some (conversion, f, rest) =>
          let (bytes, f) := convert conversion f
          more bytes rest f
        | none =>
          let directive := directive rest
          let fault :=
            if (directive.drop 1).all isDirectiveLead then "missing format character"
            else String.ofList directive ++ ": invalid directive"
          ([], { f with stopped := true, failed := true, faults := f.faults ++ [fault] })

/-- A format applied until no argument is left. -/
def formatAll : Nat → List Char → Formatting → Text.Bytes × Formatting
  | 0, _, f => ([], f)
  | rounds + 1, form, f =>
    let (bytes, f) := formatOnce (form.length + 1) form { f with used := false }
    if f.used && !f.args.isEmpty && !f.stopped then
      let (later, f) := formatAll rounds form f
      (bytes ++ later, f)
    else (bytes, f)

/-- Arguments written by a format, what was wrong with them, and the status that tells this. -/
def format (form : String) (args : List String) : Text.Bytes × List String × Nat :=
  let (bytes, f) := formatAll (args.length + 1) form.toList ⟨args, false, false, false, []⟩
  (bytes, f.faults, if f.failed then 2 else if f.faults.isEmpty then 0 else 1)

/-- Words with blanks between them, as a line of their own or, at will, without its end. -/
def echo (args : List String) : Text.Bytes :=
  let (ending, words) := match args with
    | "-n" :: rest => ("", rest)
    | words => ("\n", words)
  let (bytes, stopped) := unescape (" ".intercalate words).toList
  if stopped then bytes else bytes ++ pack ending

/-- The same as a program of its own: escapes count only when that is asked for. -/
def plainEcho (args : List String) : Text.Bytes :=
  let isOption (arg : String) : Bool :=
    match arg.toList with
    | '-' :: c :: letters => (c :: letters).all fun c => c = 'n' || c = 'e' || c = 'E'
    | _ => false
  let letters := (args.takeWhile isOption).flatMap fun arg => arg.toList.drop 1
  let ending := if letters.contains 'n' then [] else pack "\n"
  let text := " ".intercalate (args.dropWhile isOption)
  if (letters.filter (· ≠ 'n')).getLast? = some 'e' then
    let (bytes, stopped) := unescape text.toList
    if stopped then bytes else bytes ++ ending
  else pack text ++ ending

end Montage.Shell
