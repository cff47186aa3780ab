import Montage.Shell.Format
import Montage.Shell.Test
import Montage.Utility.Tree

/-!
Commands that work on their arguments alone, and those that tell about the machine.
-/

namespace Montage.Utility

open Shell

/-! ### Commands that the shell has too -/

/-- The words for what is wrong with a test. -/
def testTrouble (command : String) (s : State) (what : String) : State :=
  s.complain (command ++ ": " ++ what)

/-- Arguments written by a format. -/
def printf (s : State) (args : List String) : State :=
  match if args.head? = some "--" then args.drop 1 else args with
  | [] => misused s "printf" "missing operand" 1
  | form :: args =>
    let (bytes, faults, status) := format form args
    ((faults.foldl (fun s what => s.complain ("printf: " ++ what)) s).write 1 bytes).finish
      (min status 1)

def printDirectory : State → List String → State :=
  withOptions "pwd" (options "LP" [("logical", "L"), ("physical", "P")]) 1 fun s _ =>
    s.say (placeText s.disk.workingDirectory ++ "\n")

/-! ### Parts of paths -/

/-- The last part of a path, without an ending that it may have. -/
def baseName (text ending : String) : String :=
  let cs := (text.toList.reverse.dropWhile (· = '/')).reverse
  if cs.isEmpty then (if text = "" then "" else "/")
  else
    let last := (cs.reverse.takeWhile (· ≠ '/')).reverse
    let stem := last.take (last.length - ending.length)
    if ending ≠ "" && stem ≠ [] && stem ++ ending.toList = last then String.ofList stem
    else String.ofList last

/-- A path without its last part. -/
def directoryName (text : String) : String :=
  let cs := text.toList.reverse.dropWhile (· = '/')
  let rest := cs.dropWhile (· ≠ '/')
  let lead := (rest.dropWhile (· = '/')).reverse
  if lead.isEmpty then
    if text.toList.head? = some '/' then "/" else "."
  else String.ofList lead

def basename : State → List String → State :=
  withOptions "basename" (leadingOptions "as:z" [("multiple", "a"), ("suffix=", "s"),
    ("zero", "z")]) 1 fun s p =>
    let ending := if p.has "z" then "\x00" else "\n"
    let all := p.has "a" || p.has "s"
    match p.operands with
    | [] => misused s "basename" "missing operand" 1
    | names =>
      if all then
        s.say (String.join (names.map fun name => baseName name ((p.value? "s").getD "") ++ ending))
      else match names with
        | _ :: _ :: extra :: _ => misused s "basename" ("extra operand " ++ quotedName extra) 1
        | name :: rest => s.say (baseName name (rest.head?.getD "") ++ ending)
        | [] => s

def dirname : State → List String → State :=
  withOptions "dirname" (options "z" [("zero", "z")]) 1 fun s p =>
    if p.operands.isEmpty then misused s "dirname" "missing operand" 1
    else
      let ending := if p.has "z" then "\x00" else "\n"
      s.say (String.join (p.operands.map fun name => directoryName name ++ ending))

/-! ### Rows of numbers -/

/-- A number with the places that are written after its point. -/
structure RowNumber where
  /-- The number times a power of ten. -/
  units : Int
  places : Nat
  /-- How long its text is. -/
  width : Nat
  deriving DecidableEq

def RowNumber.scaled (n : RowNumber) (places : Nat) : Int :=
  n.units * (pow10 (places - n.places) : Int)

/-- A number of a row by its text: digits with a point and an exponent, or digits to the base
sixteen. -/
def RowNumber.ofText? (text : String) : Option RowNumber := do
  let (negative, cs) := Numeral.signed (text.toList.dropWhile Numeral.isSpace)
  let sign (n : Nat) : Int := if negative then -(n : Int) else n
  let width := (if negative then 1 else 0) + cs.length
  match cs with
  | '0' :: x :: digits =>
    if (x = 'x' || x = 'X') && !digits.isEmpty && digits.all isHexDigit then
      some ⟨sign (valueIn 16 digits), 0, width⟩
    else decimal sign width cs
  | _ => decimal sign width cs
where
  decimal (sign : Nat → Int) (width : Nat) (cs : List Char) : Option RowNumber := do
    let whole := cs.takeWhile Char.isDigit
    let rest := cs.drop whole.length
    let (part, rest) := match rest with
      | '.' :: more => (more.takeWhile Char.isDigit, more.dropWhile Char.isDigit)
      | rest => ([], rest)
    if whole.isEmpty && part.isEmpty then none
    else
      let exponent ← match rest with
        | [] => some 0
        | e :: more => if e = 'e' || e = 'E' then Numeral.exponent? more else none
      let n := Numeral.value (whole ++ part)
      let places : Int := part.length - exponent
      let width := if rest.isEmpty then width + (if whole.isEmpty then 1 else 0)
        else (Decimal.digits (Numeral.value whole)).length + exponent.toNat
      if 0 ≤ places then some ⟨sign n, places.toNat, width⟩
      else some ⟨sign (n * pow10 (-places).toNat), 0, width⟩

/-- How many numbers a row without an end has. -/
def rowLimit : Nat :=
  200000

/-- The form of the numbers of a row: what stands before and after the conversion. -/
structure RowForm where
  before : List Char
  conversion : Conversion
  after : List Char

def withoutDoubles : List Char → List Char
  | '%' :: '%' :: rest => '%' :: withoutDoubles rest
  | c :: rest => c :: withoutDoubles rest
  | [] => []

/-- The text before the first percent sign that is not doubled, and the text after that sign. -/
def untilPercent : List Char → List Char × Option (List Char)
  | '%' :: '%' :: rest =>
    let (before, after) := untilPercent rest
    ('%' :: before, after)
  | '%' :: rest => ([], some rest)
  | c :: rest =>
    let (before, after) := untilPercent rest
    (c :: before, after)
  | [] => ([], none)

/-- A form as it is given, or what is wrong with it. -/
def rowForm (form : String) : Except String RowForm :=
  let shown := "format " ++ quotedName form
  match untilPercent form.toList with
  | (_, none) => .error (shown ++ " has no % directive")
  | (before, some rest) =>
    match conversion? ⟨[], false, false, false, []⟩ rest with
    | some (c, _, after) =>
      if isRealLetter c.letter then
        if (untilPercent after).2.isSome then .error (shown ++ " has too many % directives")
        else .ok ⟨before, c, withoutDoubles after⟩
      else .error (shown ++ " has unknown %" ++ String.ofList [c.letter] ++ " directive")
    | none =>
      let lead := rest.takeWhile isDirectiveLead
      match rest.drop lead.length with
      | [] => .error (shown ++ " ends in %")
      | c :: _ => .error (shown ++ " has unknown %" ++ String.ofList [c] ++ " directive")

/-- A number of a row with its places after a point. -/
def rowChars (places : Nat) (units : Int) : List Char :=
  (if units < 0 then ['-'] else []) ++ Decimal.pointed places units.natAbs

/-- The numbers from a first to a last one; without a last one the row is cut off. -/
def rowValues (first step : Int) (last : Option Int) : List Int :=
  let count := match last with
    | some last => if step = 0 then 0 else ((last - first) / step + 1).toNat
    | none => rowLimit
  (List.range (min count 2000000)).map fun (i : Nat) => first + step * (i : Int)

def showRow (s : State) (p : Parsed) (first step : RowNumber) (last : Option RowNumber) : State :=
  let places := max first.places step.places
  let all := max places ((last.map (·.places)).getD 0)
  let values := rowValues (first.scaled all) (step.scaled all) (last.map (·.scaled all))
  -- A step downward rounds a division the other way.
  let values := match last with
    | some last => values.filter fun n =>
      if 0 < step.units then n ≤ last.scaled all else last.scaled all ≤ n
    | none => values
  let narrow (n : Int) : Int := n / (pow10 (all - places) : Int)
  let room (n : RowNumber) : Nat :=
    n.width + (places - n.places) + (if n.places = 0 && 0 < places then 1 else 0)
  let lastRoom := (last.map fun n =>
    if 0 < n.places && places = 0 then n.width - n.places - 1 else room n).getD 0
  let width := if p.has "w" then max (room first) lastRoom else 0
  let plain (n : Int) : List Char :=
    let cs := rowChars places (narrow n)
    let missing := List.replicate (width - cs.length) '0'
    match cs with
    | '-' :: digits => '-' :: missing ++ digits
    | digits => missing ++ digits
  let shown : Except String (Int → List Char) := match p.value? "f" with
    | none => .ok plain
    | some form => (rowForm form).map fun form n =>
      let x := (Numeral.real? (rowChars all n)).getD (.ofNat 0)
      form.before ++ realChars form.conversion x ++ form.after
  match shown with
  | .error what => (s.complain ("seq: " ++ what)).finish 1
  | .ok shown =>
    let mark := ((p.value? "s").getD "\n").toList
    if values.isEmpty then s else put s (mark.intercalate (values.map shown) ++ ['\n'])

/-- Arguments in which numbers below zero are no options. -/
def numbersAside : List String → List String
  | [] => []
  | "--" :: rest => "--" :: rest
  | arg :: rest =>
    match arg.toList with
    | '-' :: c :: _ => if c.isDigit || c = '.' then "--" :: arg :: rest else
        -- The value of an option is not looked at.
        match rest with
        | value :: more =>
          if arg = "-s" || arg = "-f" then arg :: value :: numbersAside more
          else arg :: numbersAside (value :: more)
        | [] => [arg]
    | _ => "--" :: arg :: rest

def seq (s : State) (args : List String) : State :=
  withOptions "seq" (leadingOptions "f:s:w" [("format=", "f"), ("separator=", "s"),
    ("equal-width", "w")]) 1 (fun s p =>
    let isEndless (text : String) : Bool :=
      let cs := (text.toList.dropWhile (· = '+')).map Char.toLower
      cs = "inf".toList || cs = "infinity".toList
    let wrong (text : String) : State :=
      let what := if (text.toList.map Char.toLower) = "nan".toList then "'not-a-number'"
        else "floating point"
      misused s "seq" ("invalid " ++ what ++ " argument: " ++ quotedName text) 1
    let one : RowNumber := ⟨1, 0, 1⟩
    let told (first step : RowNumber) (last : String) : State :=
      if isEndless last then showRow s p first step none
      else match RowNumber.ofText? last with
        | some n => showRow s p first step (some n)
        | none => wrong last
    match p.operands with
    | [] => misused s "seq" "missing operand" 1
    | [last] => told one one last
    | [first, last] =>
      match RowNumber.ofText? first with
      | some first => told first one last
      | none => wrong first
    | [first, step, last] =>
      match RowNumber.ofText? first, RowNumber.ofText? step with
      | some a, some b =>
        if b.units = 0 then
          misused s "seq" ("invalid Zero increment value: " ++ quotedName step) 1
        else told a b last
      | none, _ => wrong first
      | some _, none => wrong step
    | _ :: _ :: _ :: extra :: _ => misused s "seq" ("extra operand " ++ quotedName extra) 1) s
    (numbersAside args)

/-! ### Waiting -/

/-- A stretch of time with the letter of its unit, in thousandths of a second. -/
def stretch? (text : String) : Option Nat := do
  let found ← Numeral.leadingReal? text.toList
  let factor ← match found.rest with
    | [] | ['s'] => some 1
    | ['m'] => some 60
    | ['h'] => some 3600
    | ['d'] => some 86400
    | _ => none
  match found.value with
  | .finite false units _ => some (units * (factor * 1000) / Binary64.one)
  | .infinite false => some 4000000000000
  | _ => none

/-- The state after some time. -/
def waitFor (s : State) (ms : Nat) : State :=
  { s with disk := { s.disk with now := s.disk.now + ms } }

def sleep : State → List String → State :=
  withOptions "sleep" (options "" []) 1 fun s p =>
    if p.operands.isEmpty then misused s "sleep" "missing operand" 1
    else
      let wrong := p.operands.filter fun text => (stretch? text).isNone
      if wrong.isEmpty then
        waitFor s ((p.operands.filterMap stretch?).foldl (· + ·) 0)
      else
        let s := wrong.foldl (fun s text =>
          s.complain ("sleep: invalid time interval " ++ quotedName text)) s
        (s.complain "Try 'sleep --help' for more information.").finish 1

/-! ### The machine and its user -/

/-- A command that tells one line and takes no arguments. -/
def telling (command line : String) : State → List String → State :=
  withOptions command (options "" []) 1 fun s p =>
    match p.operands with
    | extra :: _ => misused s command ("extra operand " ++ quotedName extra) 1
    | [] => s.say (line ++ "\n")

def uname : State → List String → State :=
  withOptions "uname" (options "asnrvmpio" [("all", "a"), ("kernel-name", "s"), ("nodename", "n"),
    ("kernel-release", "r"), ("kernel-version", "v"), ("machine", "m"), ("processor", "p"),
    ("hardware-platform", "i"), ("operating-system", "o")]) 1 fun s p =>
    let parts := [("s", "Linux"), ("n", "localhost"), ("r", "6.1.0"), ("v", "#1 SMP"),
      ("m", "x86_64"), ("p", "unknown"), ("i", "unknown"), ("o", "GNU/Linux")]
    match p.operands with
    | extra :: _ => misused s "uname" ("extra operand " ++ quotedName extra) 1
    | [] =>
      let asked := parts.filter fun (key, text) =>
        if p.has "a" then text ≠ "unknown" else p.has key
      let asked := if asked.isEmpty then parts.take 1 else asked
      s.say (" ".intercalate (asked.map (·.2)) ++ "\n")

def nproc : State → List String → State :=
  withOptions "nproc" (options "" [("all", "all"), ("ignore=", "ignore")]) 1 fun s _ => s.say "1\n"

def hostname (s : State) (_ : List String) : State :=
  s.say "localhost\n"

def tty : State → List String → State :=
  withOptions "tty" (options "s" [("silent", "s"), ("quiet", "s")]) 2 fun s p =>
    (if p.has "s" then s else s.say "not a tty\n").finish 1

def logname : State → List String → State :=
  withOptions "logname" (options "" []) 1 fun s _ =>
    (s.complain "logname: no login name").finish 1

/-- Whether a name is that of the only user. -/
def isUser (name : String) : Bool :=
  name = "root" || name = "0"

def identify : State → List String → State :=
  withOptions "id" (options "agGnruzZ" [("group", "g"), ("groups", "G"), ("name", "n"),
    ("real", "r"), ("user", "u"), ("zero", "z")]) 1 fun s p =>
    match p.operands.find? fun name => !isUser name with
    | some name => (s.complain ("id: " ++ quotedName name ++ ": no such user")).finish 1
    | none =>
      if p.has "u" || p.has "g" || p.has "G" then
        s.say (if p.has "n" then "root\n" else "0\n")
      else if p.has "n" || p.has "r" then
        (s.complain "id: cannot print only names or real IDs in default format").finish 1
      else s.say "uid=0(root) gid=0(root) groups=0(root)\n"

def groups (s : State) (args : List String) : State :=
  match args.find? fun name => !isUser name with
  | some name => (s.complain ("groups: " ++ quotedName name ++ ": no such user")).finish 1
  | none =>
    if args.isEmpty then s.say "root\n"
    else s.say (String.join (args.map fun name => name ++ " : root\n"))

/-- Files given to someone else, which changes nothing that can be seen. -/
def changeOwner (command : String) : State → List String → State :=
  withOptions command (options "cfhvRHLP" [("changes", "c"), ("quiet", "f"), ("silent", "f"),
    ("no-dereference", "h"), ("recursive", "R"), ("reference=", "ref"), ("from=", "from"),
    ("verbose", "v")]) 1 fun s p =>
    match p.operands with
    | [] => misused s command "missing operand" 1
    | [owner] => misused s command ("missing operand after " ++ quotedName owner) 1
    | owner :: names =>
      let known (part : List Char) : Bool := part.isEmpty || isUser (String.ofList part) ||
        part.all Char.isDigit
      if !(Text.splitOn (· = ':') owner.toList).all known then
        let what := if command = "chown" then "user" else "group"
        (s.complain (command ++ ": invalid " ++ what ++ ": " ++ quotedName owner)).finish 1
      else names.foldl (fun s name =>
        match s.disk.look (pathOf name) with
        | .ok _ => s
        | .error e => failedTo s command "cannot access" name e) s

/-- The variables that are handed down: all of them, or the values of some. -/
def printenv : State → List String → State :=
  withOptions "printenv" (leadingOptions "0" [("null", "0")]) 2 fun s p =>
    let ending := if p.has "0" then "\x00" else "\n"
    let known := s.environment.reverse
    match p.operands with
    | [] => s.say (String.join (known.map fun (name, value) => name ++ "=" ++ value ++ ending))
    | names =>
      let values := names.map fun name => known.lookup name
      (s.say (String.join (values.filterMap fun value => value.map (· ++ ending)))).finish
        (if values.all Option.isSome then 0 else 1)

end Montage.Utility
