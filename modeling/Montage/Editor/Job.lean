import Montage.Editor.Command
import Montage.Shell.Starting
import Montage.Utility.Input

/-!
The editor at work: the line at hand, the one that is held, and where lines come from and go to.
-/

namespace Montage.Editor

open Shell
/-- How lines are read and shown. -/
structure Settings where
  quiet : Bool
  /-- Each file has its own first and last line. -/
  separate : Bool
  /-- Files are written anew; a suffix names what is kept of the old one. -/
  suffix : Option String
  ending : Char
  /-- Where a line that is listed is broken. -/
  width : Nat
  strict : Bool
  /-- How many scripts there are. -/
  scripts : Nat

structure Line where
  text : List Char
  /-- It has an end. -/
  complete : Bool

/-- What is added after a line. -/
inductive Addition
  | text (cs : List Char)
  | file (name : String)

/-- What has been written to one place, the latest first. -/
structure Outlet where
  texts : List (List Char)
  /-- The last line has no end yet. -/
  unfinished : Bool

/-- A place to which lines are written. -/
inductive Sink
  | main
  /-- What is said even where files are written anew. -/
  | said
  | errors
  | file (name : String)

structure Job where
  shell : State
  /-- The files that have not been read. -/
  files : List String
  /-- What is left of the file that is read. -/
  lines : List (List Char)
  file : String
  number : Nat
  current : Line
  held : Line
  /-- Something has been replaced since a line was read. -/
  replaced : Bool
  /-- The latest first. -/
  additions : List Addition
  main : Outlet
  said : Outlet
  /-- Files that are written to, and whether their last line has no end yet. -/
  written : List (String × Nat × Bool)
  /-- The ranges that have begun, by their commands, and the number of their last line where it is
  known. -/
  ranges : List (Nat × Option Nat)
  /-- Files of which single lines are read, and what is left of them. -/
  rows : List (String × List (List Char))
  /-- The expression that was looked for last. -/
  target : Option (Regex × Regex.Look)
  /-- The file that is read will be written anew. -/
  edited : Bool
  status : Nat
  /-- Something is so wrong that nothing goes on. -/
  ended : Bool

namespace Outlet

def none : Outlet :=
  ⟨[], false⟩

/-- An end of line where one is missing, and then a text. -/
def add (o : Outlet) (ending : Char) (cs : List Char) (complete : Bool) : Outlet :=
  let lead := if o.unfinished then [ending] else []
  ⟨(lead ++ cs ++ if complete then [ending] else []) :: o.texts, !complete⟩

/-- A text that is taken as it is. -/
def raw (o : Outlet) (ending : Char) (cs : List Char) : Outlet :=
  let lead := if o.unfinished then [ending] else []
  ⟨(lead ++ cs) :: o.texts, false⟩

def text (o : Outlet) : List Char :=
  o.texts.reverse.flatten

end Outlet

namespace Job

variable (set : Settings)

/-- A job with some files to be read. -/
def start (s : State) (files : List String) (written : List (String × Nat × Bool))
    (ranges : List (Nat × Option Nat)) : Job :=
  { shell := s
    files := files
    lines := []
    file := "-"
    number := 0
    current := ⟨[], true⟩
    held := ⟨[], true⟩
    replaced := false
    additions := []
    main := .none
    said := .none
    written := written
    ranges := ranges
    rows := []
    target := none
    edited := false
    status := 0
    ended := false }

/-- The job ended by something that is wrong. -/
def fail (j : Job) (text : String) (status : Nat) : Job :=
  { j with shell := j.shell.complain ("sed: " ++ text), status := status, ended := true }

/-! ### Writing -/

/-- A text for a file, after an end of line where one is missing. -/
def writeTo (j : Job) (name : String) (cs : List Char) (complete : Bool) : Job :=
  match j.written.lookup name with
  | none => j
  | some (id, unfinished) =>
    let lead := if unfinished then [set.ending] else []
    let bytes := bytesOf (lead ++ cs ++ if complete then [set.ending] else [])
    { j with
      shell := { j.shell with disk := j.shell.disk.append id bytes }
      written := (name, id, !complete) :: j.written.filter (·.1 ≠ name) }

/-- A line for one of the places. -/
def put (j : Job) (sink : Sink) (cs : List Char) (complete : Bool) : Job :=
  match sink with
  | .main => { j with main := j.main.add set.ending cs complete }
  | .said =>
    if j.edited then { j with said := j.said.add set.ending cs complete }
    else { j with main := j.main.add set.ending cs complete }
  | .errors =>
    let bytes := bytesOf (cs ++ if complete then [set.ending] else [])
    { j with shell := j.shell.write 2 bytes }
  | .file name => j.writeTo set name cs complete

def putLine (j : Job) (sink : Sink) (l : Line) : Job :=
  j.put set sink l.text l.complete

/-- A text that has its own end of line. -/
def putRaw (j : Job) (cs : List Char) : Job :=
  { j with main := j.main.raw set.ending cs }

/-- The place that a name stands for. -/
def sinkOf (name : String) : Sink :=
  match name with
  | "/dev/stdout" => .said
  | "/dev/stderr" => .errors
  | _ => .file name

/-- All that has been said is written. -/
def flush (j : Job) : Job :=
  let text := if j.edited then j.said.text else j.main.text
  let s := if text.isEmpty then j.shell else Utility.put j.shell text
  if j.edited then { j with shell := s, said := { j.said with texts := [] } }
  else { j with shell := s, main := { j.main with texts := [] } }

/-- What was to be added after the line. -/
def addLater (j : Job) : Job :=
  j.additions.reverse.foldl (fun j addition =>
    match addition with
    | .text cs => j.putRaw set cs
    | .file name =>
      match Utility.content j.shell name with
      | .ok (s, bytes) => { j with shell := s }.putRaw set (charsFrom bytes)
      | .error _ => j) { j with additions := [] }

/-! ### Reading -/

/-- The name under which a file is kept that is written anew. -/
def keptName (suffix name : String) : String :=
  let cs := name.toList
  let last := (cs.reverse.takeWhile (· ≠ '/')).reverse
  let lead := cs.take (cs.length - last.length)
  if suffix.toList.contains '*' then
    let kept := suffix.toList.flatMap fun c => if c = '*' then last else [c]
    String.ofList (if kept.contains '/' then kept else lead ++ kept)
  else name ++ suffix

/-- The file that has been read is written anew. -/
def closeFile (j : Job) : Job :=
  if !j.edited then j
  else
    let j := j.flush
    let done := { j with main := .none, edited := false }
    let suffix := set.suffix.getD ""
    let d := j.shell.disk
    let kept : Except FileError Disk :=
      if suffix = "" then .ok d else d.copy (pathOf j.file) (pathOf (keptName suffix j.file))
    match kept with
    | .error e => done.fail ("cannot rename " ++ j.file ++ ": " ++ e.words) 4
    | .ok d =>
      match d.write (pathOf j.file) (bytesOf j.main.text) with
      | .ok d => { done with shell := { done.shell with disk := d } }
      | .error e => done.fail ("couldn't open file " ++ j.file ++ ": " ++ e.words) 4

/-- Opens a file, or tells why that cannot be done. -/
def openFile (j : Job) (name : String) : Job :=
  let j := if set.separate then { j with number := 0, ranges := [], rows := [] } else j
  let opened := if set.suffix.isNone then Utility.content j.shell name
    else if j.shell.disk.isThere (pathOf name) && !j.shell.disk.isFile (pathOf name) then
      .error .isADirectory
    else (j.shell.disk.read (pathOf name)).map (j.shell, ·)
  match opened with
  | .ok (s, bytes) =>
    { j with
      shell := s
      lines := Utility.linesBy set.ending (charsFrom bytes)
      file := name
      edited := set.suffix.isSome }
  | .error e =>
    if e = .isADirectory && set.suffix.isSome then
      j.fail ("couldn't edit " ++ name ++ ": not a regular file") 4
    else if e = .isADirectory || e = .badStream then
      j.fail ("read error on " ++ (if name = "-" then "stdin" else name) ++ ": " ++ e.words) 4
    else
      { j with
        shell := j.shell.complain ("sed: can't read " ++ name ++ ": " ++ e.words)
        status := 2 }

/-- Opens files until there is a line. -/
def openNext : List String → Job → Job
  | [], j => { (j.closeFile set) with files := [] }
  | name :: rest, j =>
    let j := (j.closeFile set)
    let j := if j.ended then j else j.openFile set name
    if j.ended || !j.lines.isEmpty then { j with files := rest } else openNext rest j

def withLine (j : Job) : Job :=
  if j.lines.isEmpty then openNext set j.files j else j

/-- Whether the line at hand is the last one. -/
def isLast (j : Job) : Bool × Job :=
  if set.separate then (j.lines.isEmpty, j)
  else
    let j := j.withLine set
    (j.lines.isEmpty, j)

/-- The next line, if there is one: in place of the line at hand or after it. -/
def read (j : Job) (join : Bool) : Bool × Job :=
  let j := (j.addLater set).withLine set
  match j.lines with
  | [] => (false, j)
  | line :: rest =>
    let text := Utility.bareLine set.ending line
    let complete := line.getLast? = some set.ending
    let text := if join then j.current.text ++ [set.ending] ++ text else text
    (true, { j with
      lines := rest
      number := j.number + 1
      current := ⟨text, complete⟩
      replaced := false })

/-- The next line of a file of which single lines are read. -/
def readRow (j : Job) (name : String) : Job :=
  let (j, left) := match j.rows.lookup name with
    | some left => (j, left)
    | none =>
      match Utility.content j.shell name with
      | .ok (s, bytes) =>
        ({ j with shell := s }, Utility.linesBy set.ending (charsFrom bytes))
      | .error _ => (j, [])
  let j := { j with rows := (name, left.drop 1) :: j.rows.filter (·.1 ≠ name) }
  match left with
  | [] => j
  | line :: _ => { j with additions := .text line :: j.additions }

/-! ### Looking -/

/-- The expression that is looked for, which is then the last one. -/
def resolve (j : Job) (t : Target) : Option (Regex × Regex.Look) × Job :=
  match t with
  | .pattern r look => (some (r, look), { j with target := some (r, look) })
  | .same =>
    match j.target with
    | some found => (some found, j)
    | none =>
      (none, j.fail ("-e expression #" ++ Decimal.natural set.scripts ++
        ", char 0: no previous regular expression") 1)

def fits (j : Job) (a : Address) : Bool × Job :=
  match a with
  | .line n => (j.number = n, j)
  | .every first step => (first ≤ j.number && (j.number - first) % step = 0, j)
  | .last => j.isLast set
  | .fits t =>
    match j.resolve set t with
    | (some (r, look), j) => (r.occurs look j.current.text, j)
    | (none, j) => (false, j)

def leaveRange (j : Job) (i : Nat) : Job :=
  { j with ranges := j.ranges.filter (·.1 ≠ i) }

def enterRange (j : Job) (i : Nat) (last : Option Nat) : Job :=
  { j.leaveRange i with ranges := (i, last) :: (j.leaveRange i).ranges }

/-- A range that begins with the line at hand. -/
def beginRange (j : Job) (i : Nat) (stop : Stop) : Job :=
  let upTo (n : Nat) : Job := if n ≤ j.number then j else j.enterRange i (some n)
  match stop with
  | .line n => upTo n
  | .count n => upTo (j.number + n)
  | .multiple n => if n = 0 then j else upTo ((j.number / n + 1) * n)
  | .last =>
    match j.isLast set with
    | (true, j) => j
    | (false, j) => j.enterRange i none
  | .fits _ => j.enterRange i none

/-- Whether a range goes on, after its first line. -/
def inRange (j : Job) (i : Nat) (first : Address) (stop : Stop) (last : Option Nat) :
    Bool × Job :=
  match last with
  | some n =>
    let j := if n ≤ j.number then j.leaveRange i else j
    if j.number ≤ n then (true, j) else j.fits set first
  | none =>
    let (found, j) := match stop with
      | .last => j.isLast set
      | .fits t => j.fits set (.fits t)
      | _ => (true, j)
    (true, if found then j.leaveRange i else j)

/-- Whether a command is for the line at hand. -/
def selects (j : Job) (i : Nat) (s : Selector) : Bool × Job :=
  let (found, j) := match s.first, s.stop with
    | none, _ => (true, j)
    | some first, none => j.fits set first
    | some first, some stop =>
      match j.ranges.lookup i with
      | some last => j.inRange set i first stop last
      | none =>
        match j.fits set first with
        | (true, j) => (true, j.beginRange set i stop)
        | (false, j) => (false, j)
  (found != s.negated, j)

end Job

end Montage.Editor
