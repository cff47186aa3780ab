import Montage.Editor.Command
import Montage.Number.Numeral
import Montage.Regex.Reader

/-!
Reading scripts of the editor.
-/

namespace Montage.Editor

/-- What is wrong with a script. -/
inductive Fault
  | missingCommand
  | unknownCommand (c : Char)
  | extraCharacters
  | unexpectedComma
  | stepFirst
  | lineZero
  | severalBangs
  | oneAddress
  | noAddress (what : String)
  | unexpectedClose
  | unclosedBlock
  | unclosedPattern
  | unclosedSubstitution
  | unclosedPairs
  | unknownFlag
  | severalPrints
  | severalAlls
  | severalNumbers
  | numberZero
  | expectedText
  | missingFile
  | missingLabel
  | unequalLengths
  | badReference (number : Nat)
  | emptyModified
  | needsNewer
  | pattern (fault : Regex.Fault)

def Fault.message : Fault → String
  | missingCommand => "missing command"
  | unknownCommand c => "unknown command: \x60" ++ String.ofList [c] ++ "'"
  | extraCharacters => "extra characters after command"
  | unexpectedComma => "unexpected \x60,'"
  | stepFirst => "unknown command: \x60+'"
  | lineZero => "invalid usage of line address 0"
  | severalBangs => "multiple \x60!'s"
  | oneAddress => "command only uses one address"
  | noAddress what => what
  | unexpectedClose => "unexpected \x60\x7d'"
  | unclosedBlock => "unmatched \x60\x7b'"
  | unclosedPattern => "unterminated address regex"
  | unclosedSubstitution => "unterminated \x60s' command"
  | unclosedPairs => "unterminated \x60y' command"
  | unknownFlag => "unknown option to \x60s'"
  | severalPrints => "multiple \x60p' options to \x60s' command"
  | severalAlls => "multiple \x60g' options to \x60s' command"
  | severalNumbers => "multiple number options to \x60s' command"
  | numberZero => "number option to \x60s' command may not be zero"
  | expectedText => "expected \\ after \x60a', \x60c' or \x60i'"
  | missingFile => "missing filename in r/R/w/W commands"
  | missingLabel => "\x22:\x22 lacks a label"
  | unequalLengths => "strings for \x60y' command are different lengths"
  | badReference number =>
    "invalid reference \\" ++ Decimal.natural number ++ " on \x60s' command's RHS"
  | emptyModified => "cannot specify modifiers on empty regexp"
  | needsNewer => "expected newer version of sed"
  | pattern fault => fault.message

/-- What is left of a script, and how much of it has been read. -/
structure Cursor where
  rest : List Char
  read : Nat

/-- A fault and how much had been read when it was found. -/
structure Trouble where
  fault : Fault
  read : Nat

namespace Cursor

def next (c : Cursor) : Option Char × Cursor :=
  match c.rest with
  | [] => (none, c)
  | x :: rest => (some x, ⟨rest, c.read + 1⟩)

def back (c : Cursor) (x : Option Char) : Cursor :=
  match x with
  | some x => ⟨x :: c.rest, c.read - 1⟩
  | none => c

def skip (c : Cursor) (count : Nat) : Cursor :=
  ⟨c.rest.drop count, c.read + min count c.rest.length⟩

def isBlank (x : Char) : Bool :=
  x = ' ' || x = '\t'

def isSpace (x : Char) : Bool :=
  x = ' ' || ('\t' ≤ x && x ≤ '\r')

def skipBlanks (c : Cursor) : Cursor :=
  c.skip (c.rest.takeWhile isBlank).length

/-- The next character that is no blank. -/
def nextFilled (c : Cursor) : Option Char × Cursor :=
  c.skipBlanks.next

/-- A number of which the first digit comes next. -/
def number (c : Cursor) : Nat × Cursor :=
  let digits := c.rest.takeWhile Char.isDigit
  (Numeral.value digits, c.skip digits.length)

def fail {α : Type} (c : Cursor) (fault : Fault) : Except Trouble α :=
  .error ⟨fault, c.read⟩

end Cursor

/-! ### Parts between marks -/

/-- What is inside brackets, with what closes them, and how much that is. Nothing inside closes a
part, and the first character does not close the brackets. -/
def bracketed? : Option Char → Bool → List Char → Option (List Char)
  | _, _, [] | _, _, '\n' :: _ => none
  | some mark, _, x :: rest =>
    if x = mark && rest.head? = some ']' then
      (bracketed? none false (rest.drop 1)).map (x :: ']' :: ·)
    else (bracketed? (some mark) false rest).map (x :: ·)
  | none, first, ']' :: rest =>
    if first then (bracketed? none false rest).map (']' :: ·) else some [']']
  | none, _, '[' :: x :: rest =>
    if x = ':' || x = '.' || x = '=' then
      (bracketed? (some x) false rest).map fun inner => '[' :: x :: inner
    else (bracketed? none false (x :: rest)).map ('[' :: ·)
  | none, _, x :: rest => (bracketed? none false rest).map (x :: ·)
termination_by _ _ cs => cs.length
decreasing_by
  all_goals simp only [List.length_drop, List.length_cons]
  all_goals omega

/-- An end of line for a backslash and the letter `n`. -/
def withLineEnds : List Char → List Char
  | '\\' :: 'n' :: rest => '\n' :: withLineEnds rest
  | '\\' :: x :: rest => '\\' :: x :: withLineEnds rest
  | x :: rest => x :: withLineEnds rest
  | [] => []

/-- The text up to a mark. A backslash in front of the mark goes away; in a pattern one in front of
the letter `n` makes an end of line of it, and a mark inside brackets is one character of them. -/
def untilMark (mark : Char) (isPattern : Bool) :
    Nat → List Char → Nat → Option (List Char) × Cursor
  | 0, cs, read => (none, ⟨cs, read⟩)
  | _ + 1, [], read => (none, ⟨[], read⟩)
  | _ + 1, '\n' :: rest, read => (none, ⟨rest, read⟩)
  | fuel + 1, x :: rest, read =>
    if x = mark then (some [], ⟨rest, read + 1⟩)
    else if x = '\\' then
      match rest with
      | [] => (none, ⟨[], read + 1⟩)
      | x :: rest =>
        let (text, c) := untilMark mark isPattern fuel rest (read + 2)
        let kept := if x = 'n' && isPattern && x ≠ mark then ['\n']
          else if x = '\n' then ['\n']
          else if x = mark && (isPattern || x ≠ '&') then [x]
          else ['\\', x]
        (text.map (kept ++ ·), c)
    else if x = '[' && isPattern then
      let lead := rest.takeWhile (· = '^') |>.take 1
      match bracketed? none true (rest.drop lead.length) with
      | none =>
        let line := rest.takeWhile (· ≠ '\n')
        (none, ⟨rest.drop line.length, read + 1 + line.length⟩)
      | some inner =>
        let length := lead.length + inner.length
        let (text, c) := untilMark mark isPattern fuel (rest.drop length) (read + 1 + length)
        (text.map ('[' :: lead ++ withLineEnds inner ++ ·), c)
    else
      let (text, c) := untilMark mark isPattern fuel rest (read + 1)
      (text.map (x :: ·), c)

/-- The part of a script up to a mark. -/
def part (mark : Char) (isPattern : Bool) (c : Cursor) : Option (List Char) × Cursor :=
  untilMark mark isPattern (c.rest.length + 1) c.rest c.read

/-- The number of a character by digits to a base, no more than so many. -/
def numbered? (base width : Nat) (cs : List Char) : Option (Char × List Char) :=
  let value? (c : Char) : Option Nat :=
    let n := if c.isDigit then c.toNat - 48
      else if 'a' ≤ c && c ≤ 'f' then c.toNat - 87
      else if 'A' ≤ c && c ≤ 'F' then c.toNat - 55
      else 99
    if n < base then some n else none
  let digits := (cs.takeWhile fun c => (value? c).isSome).take width
  if digits.isEmpty then none
  else
    let n := digits.foldl (fun n c => n * base + (value? c).getD 0) 0
    some (Char.ofNat (n % 256), cs.drop digits.length)

/-- What an escape stands for besides the usual ones, and the text after it. -/
def escaped? (cs : List Char) : Option (Char × List Char) :=
  match cs with
  | 'a' :: rest => some ('\x07', rest)
  | 'f' :: rest => some ('\x0c', rest)
  | 'r' :: rest => some ('\r', rest)
  | 't' :: rest => some ('\t', rest)
  | 'v' :: rest => some ('\x0b', rest)
  | 'c' :: '\\' :: '\\' :: rest => some ('\x1c', rest)
  | 'c' :: x :: rest => some (Char.ofNat (x.toUpper.toNat ^^^ 64), rest)
  | 'd' :: rest => numbered? 10 3 rest
  | 'o' :: rest => numbered? 8 3 rest
  | 'x' :: rest => numbered? 16 2 rest
  | _ => none

/-- The text with those escapes replaced. A character that would have a meaning of its own keeps its
backslash. -/
def withEscapes (special : List Char) : Nat → List Char → List Char
  | 0, cs => cs
  | _ + 1, [] => []
  | fuel + 1, '\\' :: rest =>
    match escaped? rest with
    | some (x, rest) =>
      (if special.contains x then ['\\', x] else [x]) ++ withEscapes special fuel rest
    | none =>
      match rest with
      | x :: rest => '\\' :: x :: withEscapes special fuel rest
      | [] => ['\\']
  | fuel + 1, x :: rest => x :: withEscapes special fuel rest

/-- An expression with what is said about how it is to be looked at. -/
def targetOf (c : Cursor) (extended ignoreCase byLine : Bool) (cs : List Char) :
    Except Trouble Target :=
  if cs.isEmpty then
    if ignoreCase || byLine then c.fail .emptyModified else .ok .same
  else
    let cs := withEscapes [] (cs.length + 1) cs
    match Regex.read ⟨extended, true, false, false, false, true⟩ cs with
    | .ok r => .ok (.pattern r ⟨ignoreCase, byLine⟩)
    | .error fault => c.fail (.pattern fault)

/-! ### Addresses -/

/-- The letters after an expression that is an address. -/
def patternFlags : Nat → Cursor → Bool → Bool → Bool × Bool × Cursor
  | 0, c, ignoreCase, byLine => (ignoreCase, byLine, c)
  | fuel + 1, c, ignoreCase, byLine =>
    match c.nextFilled with
    | (some 'I', c) => patternFlags fuel c true byLine
    | (some 'M', c) => patternFlags fuel c ignoreCase true
    | (x, c) => (ignoreCase, byLine, c.back x)

/-- An expression between marks that is an address. -/
def patternAddress (extended : Bool) (mark : Char) (c : Cursor) :
    Except Trouble (Target × Cursor) :=
  match part mark true c with
  | (none, c) => c.fail .unclosedPattern
  | (some cs, c) => do
    let (ignoreCase, byLine, c) := patternFlags (c.rest.length + 1) c false false
    .ok (← targetOf c extended ignoreCase byLine cs, c)

/-- The first address, if there is one. -/
def firstAddress? (extended : Bool) (c : Cursor) : Except Trouble (Option Address × Cursor) :=
  match c.next with
  | (some '/', after) => do
    let (target, c) ← patternAddress extended '/' after
    .ok (some (.fits target), c)
  | (some '\\', after) =>
    match after.next with
    | (some mark, after) => do
      let (target, c) ← patternAddress extended mark after
      .ok (some (.fits target), c)
    | (none, after) => after.fail .unclosedPattern
  | (some '$', after) => .ok (some .last, after)
  | (some x, after) =>
    if x.isDigit then
      let (first, c) := c.number
      match c.nextFilled with
      | (some '~', after) =>
        let (step, after) := after.skipBlanks.number
        .ok (some (if step = 0 then .line first else .every first step), after)
      | (x, after) => .ok (some (.line first), after.back x)
    else if x = '+' || x = '~' then
      let (_, after) := after.skipBlanks.number
      after.fail .stepFirst
    else .ok (none, c)
  | (none, _) => .ok (none, c)

/-- The second address. -/
def stopAddress (extended : Bool) (c : Cursor) : Except Trouble (Stop × Cursor) :=
  match c.nextFilled with
  | (some '+', after) =>
    let (n, after) := after.skipBlanks.number
    .ok (.count n, after)
  | (some '~', after) =>
    let (n, after) := after.skipBlanks.number
    .ok (.multiple n, after)
  | (x, after) => do
    match ← firstAddress? extended (after.back x) with
    | (some (.line n), c) => .ok (.line n, c)
    | (some (.every n _), c) => .ok (.line n, c)
    | (some .last, c) => .ok (.last, c)
    | (some (.fits target), c) => .ok (.fits target, c)
    | (none, _) => after.fail .unexpectedComma

def selector (extended : Bool) (c : Cursor) : Except Trouble (Selector × Cursor) := do
  let (first, c) ← firstAddress? extended c
  let (stop, c) ← match first, c.nextFilled with
    | some _, (some ',', after) => do
      let (stop, c) ← stopAddress extended after
      .ok (some stop, c)
    | some _, (x, after) => .ok (none, after.back x)
    | none, _ => .ok (none, c)
  .ok (⟨first, stop, false⟩, c)

/-- Whether lines are asked for from before the first one, which only makes sense up to one that is
looked for. -/
def Selector.misusesZero (s : Selector) : Bool :=
  match s.first, s.stop with
  | some (.line 0), some (.fits _) => false
  | some (.line 0), _ => true
  | _, _ => false

/-! ### Commands -/

/-- The end of a command: a semicolon, an end of line, or what closes a block. -/
def endCommand (c : Cursor) : Except Trouble Cursor :=
  match c.nextFilled with
  | (none, c) | (some '\n', c) | (some ';', c) => .ok c
  | (some '\x7d', c) => .ok (c.back (some '\x7d'))
  | (some '#', c) => .ok (c.back (some '#'))
  | (some _, c) => c.fail .extraCharacters

/-- A label or nothing, up to a blank or a semicolon. -/
def labelWord (ends : Char → Bool) (c : Cursor) : String × Cursor :=
  let c := c.skipBlanks
  let word := c.rest.takeWhile fun x => !Cursor.isSpace x && !ends x
  (String.ofList word, c.skip word.length)

/-- The name of a file, up to the end of the line. -/
def fileWord (c : Cursor) : Except Trouble (String × Cursor) :=
  let c := c.skipBlanks
  let word := c.rest.takeWhile (· ≠ '\n')
  let c := c.skip (word.length + 1)
  if word.isEmpty then c.fail .missingFile else .ok (String.ofList word, c)

/-- Lines of text up to an end of line without a backslash. -/
def textLines : List Char → Nat → List Char × Cursor
  | [], read => ([], ⟨[], read⟩)
  | '\n' :: rest, read => ([], ⟨rest, read + 1⟩)
  | ['\\'], read => ([], ⟨[], read + 1⟩)
  | '\\' :: x :: rest, read =>
    let (text, c) := textLines rest (read + 2)
    ('\\' :: x :: text, c)
  | x :: rest, read =>
    let (text, c) := textLines rest (read + 1)
    (x :: text, c)

def withoutBackslashes : List Char → List Char
  | '\\' :: 'n' :: rest => '\n' :: withoutBackslashes rest
  | '\\' :: x :: rest => x :: withoutBackslashes rest
  | x :: rest => x :: withoutBackslashes rest
  | [] => []

/-- The text of a command that adds some. It begins after a backslash, which can be followed by an
end of line, or with the first character that is no blank. -/
def addedText (c : Cursor) : Except Trouble (List Char × Cursor) :=
  match c.nextFilled with
  | (none, c) => c.fail .expectedText
  | (some '\\', after) =>
    match after.next with
    | (some '\n', after) => finish after
    | (none, c) => .ok ([], c)
    | (some _, _) => finish after
  | (x, after) => finish (after.back x)
where
  finish (c : Cursor) : Except Trouble (List Char × Cursor) :=
    let (text, c) := textLines c.rest c.read
    let text := withoutBackslashes (withEscapes ['\\'] (text.length + 1) text)
    .ok (text ++ ['\n'], c)

/-- The parts of what takes the place of a match. -/
def replacement : List Char → List Part
  | [] => []
  | '\\' :: x :: rest =>
    let part : Part :=
      if x.isDigit then .group (x.toNat - 48)
      else match x with
        | 'L' => .shift .lower
        | 'U' => .shift .upper
        | 'E' => .shift .none
        | 'l' => .shift .lowerOne
        | 'u' => .shift .upperOne
        | 'n' => .text ['\n']
        | x => .text [x]
    part :: replacement rest
  | '&' :: rest => .group 0 :: replacement rest
  | x :: rest => .text [x] :: replacement rest

/-- What the letters after a substitution ask for. -/
structure Flags where
  number : Option Nat
  all : Bool
  print : Bool
  execute : Bool
  ignoreCase : Bool
  byLine : Bool
  file : Option String

def substitutionFlags : Nat → Cursor → Flags → Except Trouble (Flags × Cursor)
  | 0, c, flags => .ok (flags, c)
  | fuel + 1, c, flags =>
    match c.next with
    | (none, c) | (some '\n', c) | (some ';', c) => .ok (flags, c)
    | (some '\x7d', c) => .ok (flags, c.back (some '\x7d'))
    | (some '#', c) => .ok (flags, c.back (some '#'))
    | (some 'i', c) | (some 'I', c) =>
      substitutionFlags fuel c { flags with ignoreCase := true }
    | (some 'm', c) | (some 'M', c) => substitutionFlags fuel c { flags with byLine := true }
    | (some 'e', c) => substitutionFlags fuel c { flags with execute := true }
    | (some 'p', c) =>
      if flags.print then c.fail .severalPrints
      else substitutionFlags fuel c { flags with print := true }
    | (some 'g', c) =>
      if flags.all then c.fail .severalAlls
      else substitutionFlags fuel c { flags with all := true }
    | (some 'w', c) => (fileWord c).map fun (file, c) => ({ flags with file := some file }, c)
    | (some x, after) =>
      if x.isDigit then
        if flags.number.isSome then after.fail .severalNumbers
        else
          let (n, c) := c.number
          if n = 0 then c.fail .numberZero
          else substitutionFlags fuel c { flags with number := some n }
      else if Cursor.isBlank x then substitutionFlags fuel after flags
      else after.fail .unknownFlag

def readSubstitution (extended : Bool) (c : Cursor) : Except Trouble (Act × Cursor) :=
  match c.next with
  | (none, c) => c.fail .unclosedSubstitution
  | (some mark, c) =>
    match part mark true c with
    | (none, c) => c.fail .unclosedSubstitution
    | (some pattern, c) =>
      match part mark false c with
      | (none, c) => c.fail .unclosedSubstitution
      | (some text, c) => do
        let parts := replacement (withEscapes ['&', '\\'] (text.length + 1) text)
        let (flags, c) ← substitutionFlags (c.rest.length + 1) c
          ⟨none, false, false, false, false, false, none⟩
        let target ← targetOf c extended flags.ignoreCase flags.byLine pattern
        let groups := match target with
          | .pattern r _ => r.groups
          | .same => 9
        let wrong := parts.findSome? fun part =>
          match part with
          | .group n => if groups < n then some n else none
          | _ => none
        match wrong with
        | some n => c.fail (.badReference n)
        | none => .ok (.substitute
            ⟨target, parts, flags.number.getD 1, flags.all, flags.print, flags.execute,
              flags.file⟩, c)

/-- The characters of one of the two sides. -/
def pairSide : List Char → List Char
  | '\\' :: 'n' :: rest => '\n' :: pairSide rest
  | '\\' :: x :: rest => x :: pairSide rest
  | x :: rest => x :: pairSide rest
  | [] => []

def readPairs (c : Cursor) : Except Trouble (Act × Cursor) :=
  match c.next with
  | (none, c) => c.fail .unclosedPairs
  | (some mark, c) =>
    match part mark false c with
    | (none, c) => c.fail .unclosedPairs
    | (some old, c) =>
      match part mark false c with
      | (none, c) => c.fail .unclosedPairs
      | (some new, c) => do
        let side (cs : List Char) : List Char :=
          pairSide (withEscapes ['\\'] (cs.length + 1) cs)
        if (side old).length ≠ (side new).length then c.fail .unequalLengths
        else .ok (.replaceEach ((side old).zip (side new)), ← endCommand c)

/-- A number that may follow a command. -/
def countArgument (c : Cursor) : Except Trouble (Option Nat × Cursor) := do
  let c := c.skipBlanks
  let digits := c.rest.takeWhile Char.isDigit
  let (n, c) := c.number
  let c ← endCommand c
  .ok (if digits.isEmpty then none else some n, c)

/-- The command of a letter, other than the brackets of blocks. -/
def readAct (extended : Bool) (selector : Selector) (letter : Char) (c : Cursor) :
    Except Trouble (Act × Cursor) :=
  let plain (act : Act) : Except Trouble (Act × Cursor) := (endCommand c).map fun c => (act, c)
  let jump (act : String → Act) : Except Trouble (Act × Cursor) :=
    let (label, c) := labelWord (fun x => x = ';' || x = '\x7d') c
    .ok (act label, c)
  let single (step : Except Trouble (Act × Cursor)) : Except Trouble (Act × Cursor) :=
    if selector.stop.isSome then c.fail .oneAddress else step
  let withFile (act : String → Act) : Except Trouble (Act × Cursor) :=
    (fileWord c).map fun (file, c) => (act file, c)
  match letter with
  | '=' => plain .lineNumber
  | 'a' => (addedText c).map fun (text, c) => (.append text, c)
  | 'i' => (addedText c).map fun (text, c) => (.insert text, c)
  | 'c' => (addedText c).map fun (text, c) => (.change text, c)
  | 'd' => plain .delete
  | 'D' => plain .deleteFirst
  | 'e' =>
    let c := c.skipBlanks
    let script := c.rest.takeWhile (· ≠ '\n')
    .ok (.execute script, c.skip (script.length + 1))
  | 'F' => plain .fileName
  | 'g' => plain .get
  | 'G' => plain .getMore
  | 'h' => plain .hold
  | 'H' => plain .holdMore
  | 'x' => plain .exchange
  | 'l' => (countArgument c).map fun (n, c) => (.list n, c)
  | 'n' => plain .next
  | 'N' => plain .nextMore
  | 'p' => plain .print
  | 'P' => plain .printFirst
  | 'q' => single ((countArgument c).map fun (n, c) => (.quit (n.getD 0), c))
  | 'Q' => single ((countArgument c).map fun (n, c) => (.leave (n.getD 0), c))
  | 'r' => withFile .read
  | 'R' => withFile .readLine
  | 's' => readSubstitution extended c
  | 'b' => jump .jump
  | 't' => jump (.jumpIf true)
  | 'T' => jump (.jumpIf false)
  | 'v' =>
    let (version, c) := labelWord (· = ';') c
    let first := Numeral.value (version.toList.takeWhile Char.isDigit)
    if 4 < first then c.fail .needsNewer else (endCommand c).map fun c => (.nothing, c)
  | 'w' => withFile .write
  | 'W' => withFile .writeFirst
  | 'y' => readPairs c
  | 'z' => plain .clear
  | x => c.fail (.unknownCommand x)

/-! ### Scripts -/

/-- A block that is open: its first command, the script it is in, and how much of that had been read
when it began. -/
structure Block where
  start : Nat
  script : Nat
  read : Nat

/-- What has been read of some scripts: their commands, the latest first, and the blocks that are
open. -/
structure Draft where
  commands : List Command
  labels : List (String × Nat)
  blocks : List Block
  quiet : Bool
  /-- The number of the script that is read. -/
  script : Nat

namespace Draft

def empty : Draft :=
  ⟨[], [], [], false, 0⟩

def length (d : Draft) : Nat :=
  d.commands.length

def add (d : Draft) (command : Command) : Draft :=
  { d with commands := command :: d.commands }

/-- Tells a block where it ends. -/
def closeBlock (d : Draft) (start stop : Nat) : Draft :=
  { d with commands := d.commands.modify (d.length - start - 1) fun command =>
      { command with act := .open_ stop } }

end Draft

/-- The commands of a script, after those of the scripts before it. -/
def readCommands (extended : Bool) : Nat → Cursor → Draft → Except Trouble Draft
  | 0, _, d => .ok d
  | fuel + 1, c, d => do
    let blanks := c.rest.takeWhile fun x => x = ';' || Cursor.isSpace x
    let c := c.skip blanks.length
    if c.rest.isEmpty then .ok d
    else
      let (selector, c) ← selector extended c
      let (letter, c) := c.nextFilled
      let (negated, letter, c) ← match letter with
        | some '!' =>
          match c.nextFilled with
          | (some '!', c) => c.fail .severalBangs
          | (x, c) => .ok (true, x, c)
        | x => .ok (false, x, c)
      let selector := { selector with negated := negated }
      let letter ← match letter with
        | none => c.fail .missingCommand
        | some letter => if selector.misusesZero then c.fail .lineZero else .ok letter
      match letter with
      | '#' =>
        if selector.first.isSome then c.fail (.noAddress "comments don't accept any addresses")
        else
          let line := c.rest.takeWhile (· ≠ '\n')
          let quiet := d.quiet || (c.read = 1 && d.commands.isEmpty && line.head? = some 'n')
          readCommands extended fuel (c.skip (line.length + 1)) { d with quiet := quiet }
      | ':' =>
        if selector.first.isSome then c.fail (.noAddress ": doesn't want any addresses")
        else
          let (label, c) := labelWord (· = ';') c
          if label = "" then c.fail .missingLabel
          else
            let d := { d with labels := (label, d.length) :: d.labels }
            readCommands extended fuel c d
      | '\x7b' =>
        let d := { d with blocks := ⟨d.length, d.script, c.read⟩ :: d.blocks }
        readCommands extended fuel c (d.add ⟨selector, .open_ 0⟩)
      | '\x7d' =>
        match d.blocks with
        | [] => c.fail .unexpectedClose
        | block :: blocks =>
          if selector.first.isSome then
            c.fail (.noAddress "\x7d doesn't want any addresses")
          else
            let c ← endCommand c
            readCommands extended fuel c
              ({ d with blocks := blocks }.closeBlock block.start d.length)
      | letter =>
        let (act, c) ← readAct extended selector letter c
        readCommands extended fuel c (d.add ⟨selector, act⟩)

/-- The labels to which commands jump. -/
def Act.label? : Act → Option String
  | .jump label | .jumpIf _ label => if label = "" then none else some label
  | _ => none

/-- A whole program, once all scripts have been read; or a block that is still open, or else a label
that is missing. -/
def Draft.finish (d : Draft) : Except (Block ⊕ String) Program :=
  match d.blocks with
  | block :: _ => .error (.inl block)
  | [] =>
    let missing := (d.commands.reverse.filterMap fun command => command.act.label?).find?
      fun label => (d.labels.lookup label).isNone
    match missing with
    | some label => .error (.inr label)
    | none => .ok ⟨d.commands.reverse.toArray, d.labels, d.quiet⟩

end Montage.Editor
