import Montage.Editor.Reader
import Montage.Editor.Run
import Montage.Utility.Options

/-!
The editor as a command.
-/

namespace Montage.Utility

open Shell Editor

namespace Edit

/-- What is told about how the editor is to be called. -/
def usage : String :=
  "Usage: sed [OPTION]... \x7bscript-only-if-no-other-script\x7d [input-file]...\n"

def knownOptions : OptionSet :=
  options "bsnrzuEe:f:l:i::V:" [("binary", "b"), ("regexp-extended", "E"), ("debug", "debug"),
    ("in-place?", "i"), ("expression=", "e"), ("file=", "f"), ("line-length=", "l"),
    ("null-data", "z"), ("zero-terminated", "z"), ("quiet", "n"), ("posix", "posix"),
    ("silent", "n"), ("sandbox", "sandbox"), ("separate", "s"), ("unbuffered", "u"),
    ("help", "help"), ("follow-symlinks", "follow")]

/-- A script and where it comes from: a file, or one of the arguments. -/
structure Source where
  text : List Char
  file : Option String
  /-- Its number among those that are arguments. -/
  number : Nat
  extended : Bool

/-- Where something is in a script, as complaints tell it. -/
def Source.place (s : Source) (read shown : Nat) : String :=
  match s.file with
  | some name =>
    let line := ((s.text.take read).filter (· = '\n')).length + 1
    "sed: file " ++ name ++ " line " ++ Decimal.natural line ++ ": "
  | none =>
    "sed: -e expression #" ++ Decimal.natural s.number ++ ", char " ++ Decimal.natural shown ++ ": "

/-- Whether a text ends with a backslash that takes in what follows. -/
def isOpen (cs : List Char) : Bool :=
  (cs.reverse.takeWhile (· = '\\')).length % 2 = 1

/-- A script that is an argument, which goes on with the next one after a backslash. -/
def addScript (sources : List Source) (extended : Bool) (cs : List Char) : List Source :=
  let number := (sources.filter (·.file.isNone)).length + 1
  match sources.getLast? with
  | some last =>
    if last.file.isNone && isOpen last.text then
      sources.dropLast ++ [{ last with text := last.text ++ '\n' :: cs }]
    else sources ++ [⟨cs, none, number, extended⟩]
  | none => [⟨cs, none, number, extended⟩]

/-- The scripts that options name, and whether the extended form was asked for. -/
def sourcesOf (s : State) (given : List Given) : Except State (State × List Source × Bool) :=
  given.foldlM (fun (s, sources, extended) (key, value) =>
    match key, value with
    | "E", _ | "r", _ => .ok (s, sources, true)
    | "e", some text => .ok (s, addScript sources extended text.toList, extended)
    | "f", some name =>
      match content s name with
      | .ok (s, bytes) =>
        .ok (s, sources ++ [⟨charsFrom bytes, some name, 0, extended⟩], extended)
      | .error e =>
        .error ((s.complain ("sed: couldn't open file " ++ name ++ ": " ++ e.words)).finish 4)
    | _, _ => .ok (s, sources, extended)) (s, [], false)

/-- The program that the scripts are, or a complaint and a status. -/
def programOf (sources : List Source) : Except (String × Nat) Program := do
  let d ← (sources.zipIdx).foldlM (fun (d : Editor.Draft) (source, i) =>
    match readCommands source.extended (source.text.length + 1) ⟨source.text, 0⟩
        { d with script := i } with
    | .ok d => .ok d
    | .error ⟨.pattern .classSyntax, _⟩ =>
      .error ("sed: " ++ Regex.Fault.classSyntax.message, 4)
    | .error t => .error (source.place t.read t.read ++ t.fault.message, 1)) Editor.Draft.empty
  match d.finish with
  | .ok program => .ok program
  | .error (.inl block) =>
    let place := match sources[block.script]? with
      | some source => source.place block.read 0
      | none => ""
    .error (place ++ Fault.unclosedBlock.message, 1)
  | .error (.inr label) => .error ("sed: can't find label for jump to \x60" ++ label ++ "'", 4)

/-- The files to which a program writes. -/
def filesOf (program : Program) : List String :=
  program.commands.toList.filterMap fun command =>
    match command.act with
    | .write name | .writeFirst name => some name
    | .substitute s => s.file
    | _ => none

/-- The files opened to which a program writes. -/
def opened (program : Program) (s : State) : Except State (State × List (String × Nat × Bool)) :=
  (filesOf program).foldlM (fun (s, written) name =>
    match Job.sinkOf name, written.lookup name with
    | .file name, none =>
      match s.disk.openFile (pathOf name) with
      | .ok (d, id) =>
        .ok ({ s with disk := d.refill id [] }, written ++ [(name, id, false)])
      | .error e =>
        .error ((s.complain ("sed: couldn't open file " ++ name ++ ": " ++ e.words)).finish 4)
    | _, _ => .ok (s, written)) (s, [])

/-- The ranges that begin before the first line. -/
def earlyRanges (program : Program) : List (Nat × Option Nat) :=
  (program.commands.toList.zipIdx).filterMap fun (command, i) =>
    match command.selector.first, command.selector.stop with
    | some (.line 0), some _ => some (i, none)
    | _, _ => none

def run (start : Starter) (s : State) (p : Parsed) (sources : List Source)
    (files : List String) : State :=
  match programOf sources with
  | .error (text, status) => (s.complain text).finish status
  | .ok program =>
    match opened program s with
    | .error s => s
    | .ok (s, written) =>
      let suffix := ((p.options.filter (·.1 = "i")).getLast?).map fun given => given.2.getD ""
      let set : Editor.Settings :=
        { quiet := p.has "n" || program.quiet
          separate := p.has "s" || suffix.isSome
          suffix := suffix
          ending := if p.has "z" then '\x00' else '\n'
          width := match p.value? "l" with
            | some text => Numeral.value (text.toList.takeWhile Char.isDigit)
            | none => 70
          strict := p.has "posix"
          scripts := (sources.filter (·.file.isNone)).length }
      if suffix.isSome && files.isEmpty then (s.complain "sed: no input files").finish 4
      else
        let files := if files.isEmpty then ["-"] else files
        (Job.run set start program (.start s files written (earlyRanges program))).shell

end Edit

def sed (start : Starter) (s : State) (args : List String) : State :=
  let misused (s : State) : State := ({ s.write 2 (pack Edit.usage) with refused := none }).finish 1
  match Edit.knownOptions.parse args with
  | .error e => misused (s.complain ("sed: " ++ e.message))
  | .ok p =>
    if p.has "help" then (s.say Edit.usage).finish 0
    else match Edit.sourcesOf s p.options with
      | .error s => s
      | .ok (s, [], extended) =>
        match p.operands with
        | [] => misused s
        | text :: files => Edit.run start s p (Edit.addScript [] extended text.toList) files
      | .ok (s, sources, _) => Edit.run start s p sources p.operands

end Montage.Utility
