import Montage.Editor.Job

/-!
Running a script of the editor over the lines of its files.
-/

namespace Montage.Editor

open Shell

/-- How the commands for a line end. -/
inductive Ending
  /-- The line is shown, unless lines are only shown on demand. -/
  | over
  | dropped
  /-- The commands begin again with what is left of the line. -/
  | again
  | quit (code : Nat)
  | leave (code : Nat)

/-- A character in a line that is listed. -/
def listed (c : Char) : List Char :=
  match c with
  | '\\' => ['\\', '\\']
  | c => if Utility.isPrintable c then [c] else Utility.escapeOf c

/-- A line as it is listed: no character stands for itself that could be mistaken, and long lines
are broken. -/
def listing (width : Nat) (cs : List Char) : List Char :=
  let (shown, _) := cs.foldl (fun (shown, used) c =>
    let piece := listed c
    if 0 < width && width - 1 < used + piece.length then
      (shown ++ ['\\', '\n'] ++ piece, piece.length)
    else (shown ++ piece, used + piece.length)) (([] : List Char), 0)
  shown ++ ['$']

namespace Job

variable (set : Settings) (start : Starter)

/-- What a script of the shell writes. -/
def answer (j : Job) (script : List Char) : List Char × Job :=
  let j := j.flush
  let s := j.shell
  let number := s.pipes.length
  let inner := { s with pipes := s.pipes ++ [[]] }.setStream 1 (.pipe number)
  match inner.spawn start "sh" ["-c", String.ofList script] with
  | .ok done =>
    (charsFrom (done.pipeBytes number),
      { j with shell := { done with
        pipes := done.pipes.take number, streams := s.streams, status := s.status } })
  | .error _ => ([], j)

/-- The line up to its first end. -/
def firstPart (j : Job) : Line :=
  if j.current.text.contains set.ending then
    ⟨j.current.text.takeWhile (· ≠ set.ending), true⟩
  else j.current

def withText (j : Job) (text : List Char) : Job :=
  { j with current := { j.current with text := text } }

/-- The line replaced by what it does as a script. -/
def executed (j : Job) : Job :=
  let (text, j) := j.answer start j.current.text
  j.withText (Utility.bareLine set.ending text)

def substitute (j : Job) (s : Substitution) : Job :=
  match j.resolve set s.target with
  | (none, j) => j
  | (some (r, look), j) =>
    match s.replaced? r look j.current.text with
    | none => j
    | some text =>
      let j := { j.withText text with replaced := true }
      let j := if s.execute then j.executed set start else j
      let j := if s.print then j.putLine set .main j.current else j
      match s.file with
      | some name => j.putLine set (sinkOf name) j.current
      | none => j

/-- What a command does to the line at hand, for commands that go on with the next one. -/
def done (j : Job) (act : Act) : Job :=
  match act with
  | .lineNumber => j.putRaw set (Decimal.digits j.number ++ ['\n'])
  | .append text => { j with additions := .text text :: j.additions }
  | .insert text => j.putRaw set text
  | .execute [] => { j.executed set start with current.complete := true }
  | .execute script =>
    let (text, j) := j.answer start script
    j.putRaw set text
  | .fileName => j.putRaw set (j.file.toList ++ ['\n'])
  | .get => { j with current := j.held }
  | .getMore =>
    { j with current := ⟨j.current.text ++ [set.ending] ++ j.held.text, j.held.complete⟩ }
  | .hold => { j with held := j.current }
  | .holdMore =>
    { j with held := ⟨j.held.text ++ [set.ending] ++ j.current.text, j.current.complete⟩ }
  | .exchange => { j with current := j.held, held := j.current }
  | .list width => j.putRaw set (listing (width.getD set.width) j.current.text ++ ['\n'])
  | .print => j.putLine set .main j.current
  | .printFirst => j.putLine set .main (j.firstPart set)
  | .read name => { j with additions := .file name :: j.additions }
  | .readLine name => j.readRow set name
  | .substitute s => j.substitute set start s
  | .write name => j.putLine set (sinkOf name) j.current
  | .writeFirst name => j.putLine set (sinkOf name) (j.firstPart set)
  | .replaceEach pairs => j.withText (j.current.text.map fun c => (pairs.lookup c).getD c)
  | .clear => j.withText []
  | _ => j

/-- The commands from one on, for the line at hand. -/
def go (program : Program) : Nat → Nat → Job → Ending × Job
  | 0, _, j => (.leave 0, j)
  | fuel + 1, i, j =>
    if j.ended then (.leave j.status, j)
    else match program.commands[i]? with
      | none => (.over, j)
      | some command =>
        let jumped (label : String) (j : Job) : Ending × Job :=
          if label = "" then (.over, j)
          else go program fuel ((program.labels.lookup label).getD 0) j
        match j.selects set i command.selector with
        | (false, j) =>
          match command.act with
          | .open_ stop => go program fuel stop j
          | _ => go program fuel (i + 1) j
        | (true, j) =>
          if j.ended then (.leave j.status, j)
          else match command.act with
            | .change text =>
              let j := if (j.ranges.lookup i).isSome && !command.selector.negated then j
                else j.putRaw set text
              (.dropped, j)
            | .delete => (.dropped, j)
            | .deleteFirst =>
              if j.current.text.contains set.ending then
                let rest := (j.current.text.dropWhile (· ≠ set.ending)).drop 1
                (.again, j.withText rest)
              else (.dropped, j)
            | .quit code => (.quit code, j)
            | .leave code => (.leave code, j)
            | .next =>
              match j.isLast set with
              | (true, j) => if set.strict then (.dropped, j) else (.over, j)
              | (false, j) =>
                let j := if set.quiet then j else j.putLine set .main j.current
                go program fuel (i + 1) (j.read set false).2
            | .nextMore =>
              match j.isLast set with
              | (true, j) => if set.strict then (.dropped, j) else (.over, j)
              | (false, j) => go program fuel (i + 1) (j.read set true).2
            | .jump label => jumped label j
            | .jumpIf replaced label =>
              let taken := j.replaced = replaced
              let j := { j with replaced := false }
              if taken then jumped label j else go program fuel (i + 1) j
            | act => go program fuel (i + 1) (j.done set start act)

/-- The bytes that have not been used go back to where they can be read again. -/
def giveBack (j : Job) : Job :=
  if j.file = "-" && j.shell.isSeekable 0 then
    { j with shell := j.shell.leaveWaiting 0 (bytesOf j.lines.flatten) }
  else j

/-- The end of all: what is left to be written is. -/
def finish (j : Job) (code : Nat) : Job :=
  let j := j.closeFile set
  let j := j.flush
  { j with shell := j.shell.finish (code % 256) }

/-- Line after line. -/
def cycles (program : Program) : Nat → Job → Job
  | 0, j => j.finish set j.status
  | fuel + 1, j =>
    let shown (j : Job) : Job := if set.quiet then j else j.putLine set .main j.current
    let onward (j : Job) : Job :=
      match j.read set false with
      | (true, j) => if j.ended then j.finish set j.status else cycles program fuel j
      | (false, j) => j.finish set j.status
    match go set start program fuel 0 j with
    | (.over, j) => onward (shown j)
    | (.dropped, j) => onward j
    | (.again, j) => cycles program fuel (j.addLater set)
    | (.quit code, j) => ((shown j).addLater set).giveBack.finish set code
    | (.leave code, j) =>
      if j.ended then ({ j with edited := false }.flush).finish set j.status
      else j.giveBack.finish set code

/-- How many commands are run for one line, and for how many lines. -/
def stepLimit : Nat :=
  1000000

/-- A program run over all lines. -/
def run (program : Program) (j : Job) : Job :=
  match j.read set false with
  | (true, j) => cycles set start program stepLimit j
  | (false, j) => j.finish set j.status

end Job

end Montage.Editor
