import Montage.Number.Numeral
import Montage.Shell.State
import Montage.Utility.Options

/-!
Names as commands show them in what they say: in quotes that a shell would read back, or in plain
quotes with escapes.
-/

namespace Montage.Utility

def isPrintable (c : Char) : Bool :=
  ' ' ≤ c && c ≤ '~'

/-- The letter that stands for a character after a backslash, or its number by three digits. -/
def escapeOf (c : Char) : List Char :=
  match c with
  | '\x07' => ['\\', 'a']
  | '\x08' => ['\\', 'b']
  | '\t' => ['\\', 't']
  | '\n' => ['\\', 'n']
  | '\x0b' => ['\\', 'v']
  | '\x0c' => ['\\', 'f']
  | '\r' => ['\\', 'r']
  | c =>
    let digits := Nat.toDigits 8 c.toNat
    '\\' :: List.replicate (3 - digits.length) '0' ++ digits

/-- What has been quoted last. -/
inductive Quoted
  | plain
  | escape
  deriving DecidableEq

/-- The inside of single quotes, which are left for what has to be escaped. -/
def shellQuoted : Quoted → List Char → List Char
  | _, [] => []
  | before, c :: rest =>
    if c = '\x27' then ['\x27', '\\', '\x27', '\x27'] ++ shellQuoted .plain rest
    else if isPrintable c then
      (if before = .escape then ['\x27', '\x27'] else []) ++ c :: shellQuoted .plain rest
    else
      (if before = .plain then ['\x27', '$', '\x27'] else []) ++ escapeOf c ++
        shellQuoted .escape rest

/-- Characters that mean the same in all quotes. -/
def isHarmless (c : Char) : Bool :=
  isPrintable c && !"!\x22#$&()*;<=>?[\\^\x60\x7b|\x7d~".toList.contains c

/-- A name in quotes. One that holds a single quote and nothing else of meaning is in double
ones. -/
def quotedName (name : String) : String :=
  let cs := name.toList
  if cs.contains '\x27' && cs.all isHarmless then "\x22" ++ name ++ "\x22"
  else String.ofList ('\x27' :: shellQuoted .plain cs ++ ['\x27'])

/-- Whether a shell would not read a name as it stands. -/
def needsQuotes (name : String) : Bool :=
  match name.toList with
  | [] => true
  | c :: rest =>
    c = '#' || c = '~' || ((c = '\x7b' || c = '\x7d') && rest.isEmpty) ||
      (c :: rest).any fun c => !isPrintable c || " !\x22$&()*;<=>[^\x60|\x27\\?:".toList.contains c

/-- A name, in quotes only where it needs them. -/
def shownName (name : String) : String :=
  if needsQuotes name then quotedName name else name

/-- A word in plain quotes. -/
def quotedWord (word : String) : String :=
  let piece (c : Char) : List Char :=
    if c = '\x27' || c = '\\' then ['\\', c] else if isPrintable c then [c] else escapeOf c
  String.ofList ('\x27' :: word.toList.flatMap piece ++ ['\x27'])

end Montage.Utility

/-!
What commands read: files by their names, the stream that is read, and lines.
-/

namespace Montage.Utility

open Shell

/-- All that is left in the stream that is read. A command complains when there is no stream that
can be read. -/
def drain (command : String) (s : State) : State × Text.Bytes :=
  match s.reading 0 with
  | .ok bytes => (s.leaveWaiting 0 [], bytes)
  | .error e => ((s.complain (command ++ ": read error: " ++ e.words)).finish 1, [])

/-- How commands speak of the stream that is read when they cannot close it. -/
def closingName? (command : String) : Option String :=
  match command with
  | "rev" => none
  | "cat" => some "closing standard input"
  | "head" | "tail" | "tac" | "nl" | "cut" | "paste" | "fold" | "expand" | "unexpand" | "wc" =>
    some "-"
  | _ => some "standard input"

/-- What a command says at its end when the stream that it was to read is not open. -/
def closeInput (command : String) (names : List String) (s : State) : State :=
  match s.stream? 0, closingName? command with
  | none, some name =>
    if names.isEmpty || names.contains "-" then
      (s.complain (command ++ ": " ++ name ++ ": " ++ FileError.badStream.words)).finish 1
    else s
  | _, _ => s

/-- What a file offers to be read; a dash names the stream. -/
def content (s : State) (name : String) : Except FileError (State × Text.Bytes) :=
  let streamed (n : Nat) : Except FileError (State × Text.Bytes) :=
    (s.reading n).map fun bytes => (s.leaveWaiting n [], bytes)
  if name = "-" then streamed 0
  else match State.streamNumber? name with
    | some n => streamed n
    | none =>
      match s.disk.look (pathOf name) with
      | .ok (.file id) => .ok (s, State.bytesFrom (s.disk.content id))
      | .ok _ => .error .isADirectory
      | .error e => .error e

/-- How a command says that it cannot use a file. -/
abbrev Wording := String → FileError → String

/-- The name, and then what is wrong. -/
def plainWording : Wording := fun name e =>
  shownName name ++ ": " ++ e.words

/-- The name in quotes, where a dash names the stream that is read. -/
def quotedInput (name : String) : String :=
  quotedName (if name = "-" then "standard input" else name)

/-- A file that is there but cannot be read, against one that cannot be opened. -/
def openWording : Wording := fun name e =>
  if e = .isADirectory ∨ e = .badStream then "error reading " ++ quotedInput name ++ ": " ++ e.words
  else "cannot open " ++ quotedName name ++ " for reading: " ++ e.words

/-- Does something with what each file holds, and carries a value along. Files that cannot be used
are complained about. -/
def foldFiles {α : Type} (command : String) (wording : Wording) (names : List String)
    (step : State → α → String → List Char → State × α) (s : State) (start : α) : State × α :=
  let (s, a) := (if names.isEmpty then ["-"] else names).foldl (fun (s, a) name =>
    match content s name with
    | .ok (s, bytes) => step s a name (charsFrom bytes)
    | .error e => ((s.complain (command ++ ": " ++ wording name e)).finish 1, a)) (s, start)
  (closeInput command names s, a)

def eachFile (command : String) (wording : Wording) (names : List String)
    (step : State → String → List Char → State) (s : State) : State :=
  (foldFiles command wording names (fun s _ name cs => (step s name cs, ())) s ()).1

/-- What all files hold together. -/
def together (command : String) (wording : Wording) (names : List String) (s : State) :
    State × List Char :=
  foldFiles command wording names (fun s found _ cs => (s, found ++ cs)) s []

/-- The file to which a stream leads, unless that is a device. -/
def streamFile? (s : State) (stream : Nat) : Option Nat :=
  match s.stream? stream with
  | some (.file n) => (s.opened[n]?.map (·.id)).filter fun id => !(s.disk.content id).isDevice
  | _ => none

/-- Whether a file is the one that is being written. -/
def isOutput (s : State) (name : String) : Bool :=
  let read? := if name = "-" then streamFile? s 0
    else match s.disk.look (pathOf name) with
      | .ok (.file id) => some id
      | _ => none
  read?.isSome && read? = streamFile? s 1

def put (s : State) (cs : List Char) : State :=
  s.write 1 (bytesOf cs)

/-- The lines, each with its end. -/
def linesBy (ending : Char) (cs : List Char) : List (List Char) :=
  cs.foldr (fun c lines =>
    if c = ending then [c] :: lines
    else match lines with
      | line :: rest => (c :: line) :: rest
      | [] => [[c]]) []

def linesOf (cs : List Char) : List (List Char) :=
  linesBy '\n' cs

/-- A line without its end. -/
def bareLine (ending : Char) (line : List Char) : List Char :=
  if line.getLast? = some ending then line.dropLast else line

/-- The lines without their ends. -/
def bareLines (ending : Char) (cs : List Char) : List (List Char) :=
  (linesBy ending cs).map (bareLine ending)

/-- The lines with an end each, one that had none too. -/
def joinLines (ending : Char) (lines : List (List Char)) : List Char :=
  lines.flatMap fun line => line ++ [ending]

/-! ### Numbers -/

/-- The factors that letters after a number stand for. -/
def unitLetters : List (Char × Nat) :=
  [('K', 1), ('k', 1), ('M', 2), ('G', 3), ('T', 4), ('P', 5), ('E', 6)]

/-- The factor that a suffix stands for. -/
def unit? (cs : List Char) : Option Nat :=
  match cs with
  | [] => some 1
  | ['b'] => some 512
  | [c] => (unitLetters.lookup c).map fun n => Nat.pow 1024 n
  | [c, 'B'] => (unitLetters.lookup c).map fun n => Nat.pow 1000 n
  | [c, 'i', 'B'] => (unitLetters.lookup c).map fun n => Nat.pow 1024 n
  | _ => none

/-- A count with a suffix. -/
def count? (cs : List Char) : Option Nat :=
  let digits := cs.takeWhile Char.isDigit
  if digits.isEmpty then none
  else (unit? (cs.drop digits.length)).map (Numeral.value digits * ·)

def padLeft (width : Nat) (cs : List Char) : List Char :=
  List.replicate (width - cs.length) ' ' ++ cs

end Montage.Utility
