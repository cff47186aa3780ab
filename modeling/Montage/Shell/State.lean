import Montage.Disk.Change
import Montage.Number.Decimal
import Montage.Shell.Bytes
import Montage.Shell.Command

/-!
Signals: their numbers, their names, and the words for a process that one of them has ended.
-/

namespace Montage.Shell

/-- The names of signals and the words for their work, in the order of their numbers. -/
def signals : List (String × String) :=
  [("EXIT", ""), ("HUP", "Hangup"), ("INT", "Interrupt"), ("QUIT", "Quit"),
    ("ILL", "Illegal instruction"), ("TRAP", "Trace/breakpoint trap"), ("ABRT", "Aborted"),
    ("BUS", "Bus error"), ("FPE", "Floating point exception"), ("KILL", "Killed"),
    ("USR1", "User defined signal 1"), ("SEGV", "Segmentation fault"),
    ("USR2", "User defined signal 2"), ("PIPE", "Broken pipe"), ("ALRM", "Alarm clock"),
    ("TERM", "Terminated"), ("16", "Stack fault"), ("CHLD", "Child exited"),
    ("CONT", "Continued"), ("STOP", "Stopped (signal)"), ("TSTP", "Stopped"),
    ("TTIN", "Stopped (tty input)"), ("TTOU", "Stopped (tty output)"),
    ("URG", "Urgent I/O condition"), ("XCPU", "CPU time limit exceeded"),
    ("XFSZ", "File size limit exceeded"), ("VTALRM", "Virtual timer expired"),
    ("PROF", "Profiling timer expired"), ("WINCH", "Window changed"), ("IO", "I/O possible"),
    ("PWR", "Power failure"), ("SYS", "Bad system call")]

namespace Signal

/-- One more than the greatest number of a signal. -/
def limit : Nat :=
  65

def interrupt : Nat := 2

def kill : Nat := 9

/-- A calculation without a result. -/
def arithmetic : Nat := 8

/-- Memory that a process does not have. -/
def segmentation : Nat := 11

def brokenPipe : Nat := 13

def terminate : Nat := 15

/-- A process has ended that this one began. -/
def child : Nat := 17

/-- The signals that a process takes no notice of unless it asked for them. -/
def quiet : List Nat :=
  [17, 18, 19, 20, 21, 22, 23, 28]

def number (digits : List Char) : Nat :=
  digits.foldl (fun n c => n * 10 + (c.toNat - 48)) 0

/-- The signal of a name, in letters of either case, or of a number. -/
def ofText? (text : String) : Option Nat :=
  let cs := text.toList
  if !cs.isEmpty && cs.all Char.isDigit then
    if number cs < limit then some (number cs) else none
  else
    let name := String.ofList (cs.map Char.toUpper)
    signals.findIdx? fun (found, _) => found = name

def name (n : Nat) : String :=
  match signals[n]? with
  | some (text, _) => text
  | none =>
    if n < 34 then Decimal.natural n
    else if n = 34 then "RTMIN"
    else if n < 50 then "RTMIN+" ++ Decimal.natural (n - 34)
    else if n < 64 then "RTMAX-" ++ Decimal.natural (64 - n)
    else "RTMAX"

def words (n : Nat) : String :=
  (signals[n]?.map (·.2)).getD "Real-time signal"

/-- Whether the end of a process by this signal is worth a word. -/
def isNotable (n : Nat) : Bool :=
  n ≠ interrupt && n ≠ brokenPipe

end Signal

end Montage.Shell

/-!
The state of a running script: files, streams, variables, and how it goes on.
-/

namespace Montage.Shell

/-- The other end of a stream. -/
inductive Stream
  /-- A buffer that is written to. -/
  | pipe (number : Nat)
  /-- A file that has been opened. -/
  | file (number : Nat)
  /-- Some bytes that are read. -/
  | source (number : Nat)
  /-- Nothing can be read from it. -/
  | nowhere
  /-- It cannot be read at all. -/
  | directory

/-- A file that has been opened, and how far it has been read or written. -/
structure Opened where
  id : Nat
  offset : Nat
  /-- All that is written goes to the end. -/
  append : Bool
  readable : Bool
  writable : Bool

/-- A variable; it may have been spoken of before it has a value. -/
structure Variable where
  value : Option String
  exported : Bool
  /-- Its value cannot be changed any more. -/
  fixed : Bool

/-- What comes after a command. -/
inductive Flow
  | onward
  | leave (exitCode : Nat)
  /-- A mistake ends the script, unless only a command fails because of it. -/
  | broken
  /-- A signal has ended the script. -/
  | killed (signal : Nat)
  | leaveLoops (count : Nat)
  | nextRound (count : Nat)
  | leaveFunction
  deriving DecidableEq

structure Options where
  exitOnError : Bool
  demandValues : Bool
  plainNames : Bool
  trace : Bool
  /-- The lines of the script are shown as they are read. -/
  verbose : Bool
  /-- The script comes from a stream. -/
  streamed : Bool
  /-- Files that are there are not written over. -/
  keepFiles : Bool
  exportAll : Bool
  /-- Commands are read and not run. -/
  readOnly : Bool

def Options.none : Options :=
  ⟨false, false, false, false, false, false, false, false, false⟩

/-- Processes, by the numbers under which they are known. -/
structure Processes where
  /-- The script that is running, and those that wait for it, nearest first. -/
  own : Nat
  waiting : List Nat
  /-- The number of the next one. -/
  next : Nat
  /-- Those that ran beside the script, the latest first, and how they ended. -/
  ended : List (Nat × Nat)
  /-- Signals that have been sent to a script from a process it waits for. -/
  pending : List (Nat × Nat)
  /-- What runs is not the script itself but a process that it began. -/
  isChild : Bool
  /-- The signal that ended the program that ran last, if one did. -/
  endedBy : Option Nat

/-- What is as it was once a function has ended: variables, the latest first, and the options. -/
structure Kept where
  bindings : List (String × Option Variable)
  options : Option Options

structure State where
  disk : Disk
  /-- What has been written to each buffer, the latest first. -/
  pipes : List (List Text.Bytes)
  /-- What is left to be read of each source. -/
  sources : List Text.Bytes
  opened : List Opened
  streams : List (Nat × Stream)
  script : String
  arguments : List String
  bindings : List (String × Variable)
  functions : List (String × Command)
  /-- Other names for commands, the latest first. -/
  aliases : List (String × String)
  options : Options
  line : Nat
  /-- The line up to which the script has been read. -/
  lineRead : Nat
  /-- The lines of the script that redirections have got, by numbers. -/
  documents : List (Nat × Word)
  status : Nat
  flow : Flow
  loops : Nat
  /-- Whether a failure is only asked about, so that it does not end the script. -/
  asking : Bool
  /-- How the latest script inside a word ended, if there was one in the command. -/
  answered : Option Nat
  /-- What is run when a signal comes, or for the number zero when the script ends. -/
  traps : List (Nat × String)
  /-- The status before that, while it runs, with which it ends the script if it names no other. -/
  parting : Option Nat
  processes : Processes
  /-- The command of the shell that runs, for complaints. -/
  command : String
  /-- The argument after the one whose options are looked at, counted from one. -/
  optionIndex : Nat
  /-- How far the options in that argument have been looked at. -/
  optionOffset : Option Nat
  /-- How many functions run inside each other. -/
  functionDepth : Nat
  /-- What a function gives back when it ends, while one runs. -/
  kept : Option Kept
  /-- The working directory as the script calls it. -/
  directory : String
  /-- Where programs have been found, in the order in which they were looked for. -/
  remembered : List (String × String)
  /-- Why something could not be written, since this was asked last. -/
  refused : Option FileError

namespace State

/-- The buffers that stand for the two streams of a tool. -/
def outputPipe : Nat := 0

def errorPipe : Nat := 1

/-- The number of the first script. -/
def firstProcess : Nat := 4242

def initial (disk : Disk) (bindings : List (String × String)) : State :=
  { disk := disk
    pipes := [[], []]
    sources := []
    opened := []
    streams := [(0, .nowhere), (1, .pipe outputPipe), (2, .pipe errorPipe)]
    script := ""
    arguments := []
    bindings := bindings.map fun (name, value) => (name, ⟨some value, true, false⟩)
    functions := []
    aliases := []
    options := .none
    line := 1
    lineRead := 1
    documents := []
    status := 0
    flow := .onward
    loops := 0
    asking := false
    answered := none
    traps := []
    parting := none
    processes := ⟨firstProcess - 1, [1], firstProcess, [], [], false, none⟩
    command := ""
    optionIndex := 1
    optionOffset := none
    functionDepth := 0
    kept := none
    directory := "/" ++ "/".intercalate disk.workingDirectory
    remembered := []
    refused := none }

def goesOn (s : State) : Bool :=
  s.flow = .onward

def finish (s : State) (status : Nat) : State :=
  { s with status := status }

def leave (s : State) (exitCode : Nat) : State :=
  { s with status := exitCode, flow := .leave exitCode }

/-! ### Streams -/

def pipeBytes (s : State) (number : Nat) : Text.Bytes :=
  ((s.pipes[number]?.getD []).reverse).flatten

def stream? (s : State) (number : Nat) : Option Stream :=
  s.streams.lookup number

def closeStream (s : State) (number : Nat) : State :=
  { s with streams := s.streams.filter (·.1 ≠ number) }

def setStream (s : State) (number : Nat) (stream : Stream) : State :=
  { s.closeStream number with streams := (number, stream) :: (s.closeStream number).streams }

/-- A stream that works on a file that is opened for it. -/
def openStream (s : State) (number : Nat) (file : Opened) : State :=
  { s with opened := s.opened ++ [file] }.setStream number (.file s.opened.length)

/-- What a file holds after some bytes have been put over those at an offset. -/
def overwritten (old : Text.Bytes) (offset : Nat) (bytes : Text.Bytes) : Text.Bytes :=
  if old.length ≤ offset then old ++ List.replicate (offset - old.length) 0 ++ bytes
  else old.take offset ++ bytes ++ old.drop (offset + bytes.length)

/-- Some bytes written to a file that has been opened under a number. -/
def writeOpened (s : State) (number : Nat) (file : Opened) (bytes : Text.Bytes) : State :=
  let content := s.disk.content file.id
  if !file.writable then { s with refused := some .badStream }
  else if content.kind = .full && !bytes.isEmpty then { s with refused := some .noSpace }
  else
    let offset := if file.append then content.bytes.length else file.offset
    { s with
      disk := s.disk.refill file.id (overwritten content.bytes offset bytes)
      opened := s.opened.set number { file with offset := offset + bytes.length } }

def write (s : State) (number : Nat) (bytes : Text.Bytes) : State :=
  match s.stream? number with
  | some (.pipe n) => { s with pipes := s.pipes.modify n (bytes :: ·) }
  | some (.file n) =>
    match s.opened[n]? with
    | some file => s.writeOpened n file bytes
    | none => s
  | _ => { s with refused := some .badStream }

def say (s : State) (text : String) : State :=
  s.write 1 (pack text)

def complain (s : State) (text : String) : State :=
  { s.write 2 (pack (text ++ "\n")) with refused := s.refused }

/-- A complaint of the shell, which tells where it is. -/
def report (s : State) (text : String) : State :=
  s.complain (s.script ++ ": " ++ Decimal.natural s.line ++ ": " ++ s.command ++ text)

/-- After a mistake nothing goes on. -/
def break_ (s : State) : State :=
  { s with status := 2, flow := .broken }

/-- A complaint after which the script cannot go on. -/
def abort (s : State) (text : String) : State :=
  (s.report text).break_

/-- How many zeros are read from a device that never ends. -/
def zeroLimit : Nat :=
  1048576

/-- The bytes that can be read from a file. -/
def bytesFrom (content : Content) : Text.Bytes :=
  match content.kind with
  | .zeros | .full => List.replicate zeroLimit 0
  | _ => content.bytes

/-- The bytes that a stream still holds; an error when it cannot be read. -/
def reading (s : State) (number : Nat) : Except FileError Text.Bytes :=
  match s.stream? number with
  | some (.source n) => .ok (s.sources[n]?.getD [])
  | some (.file n) =>
    match s.opened[n]? with
    | some file =>
      if file.readable then .ok ((bytesFrom (s.disk.content file.id)).drop file.offset)
      else .error .badStream
    | none => .error .badStream
  | some .nowhere => .ok []
  | some .directory => .error .isADirectory
  | _ => .error .badStream

def waiting (s : State) (number : Nat) : Text.Bytes :=
  (s.reading number).toOption.getD []

/-- Leaves only some bytes in a stream. -/
def leaveWaiting (s : State) (number : Nat) (bytes : Text.Bytes) : State :=
  match s.stream? number with
  | some (.source n) => { s with sources := s.sources.set n bytes }
  | some (.file n) =>
    let settle (file : Opened) : Opened :=
      let content := s.disk.content file.id
      if content.isDevice then file
      else { file with offset := content.bytes.length - bytes.length }
    { s with opened := s.opened.modify n settle }
  | _ => s

/-- A stream that can be read again from an earlier place. -/
def isSeekable (s : State) (number : Nat) : Bool :=
  match s.stream? number with
  | some (.file _) => true
  | _ => false

/-- The stream that a path stands for, where it names one of those that are open. -/
def streamNumber? (path : String) : Option Nat :=
  match path with
  | "/dev/stdin" => some 0
  | "/dev/stdout" => some 1
  | "/dev/stderr" => some 2
  | _ =>
    ["/dev/fd/", "/proc/self/fd/"].findSome? fun directory =>
      let rest := path.toList.drop directory.length
      if directory.toList.isPrefixOf path.toList && !rest.isEmpty && rest.all Char.isDigit then
        some (Signal.number rest)
      else none

/-- A stream that is read from the given bytes. -/
def feed (s : State) (number : Nat) (bytes : Text.Bytes) : State :=
  { s with sources := s.sources ++ [bytes] }.setStream number (.source s.sources.length)

/-! ### Variables -/

def stored? (s : State) (name : String) : Option String :=
  (s.bindings.lookup name).bind (·.value)

def setVariable (s : State) (name : String) (v : Variable) : State :=
  { s with bindings := (name, v) :: s.bindings.filter (·.1 ≠ name) }

/-- What is known of a variable, to be told more. -/
def known (s : State) (name : String) : Variable :=
  (s.bindings.lookup name).getD ⟨none, s.options.exportAll, false⟩

/-- Programs are looked for anew when the search path may be another one. -/
def searchedAnew (s : State) (name : String) : State :=
  if name = "PATH" then { s with remembered := [] } else s

/-- A new value for a variable that may be changed. -/
def store (s : State) (name value : String) : State :=
  let v := s.known name
  if v.fixed then s.abort (name ++ ": is read only")
  else
    (s.searchedAnew name).setVariable name
      { v with value := some value, exported := v.exported || s.options.exportAll }

/-- Options are looked for from the argument with that number on. -/
def seekOptions (s : State) (index : Nat) : State :=
  { s with optionIndex := max index 1, optionOffset := none }

/-- Tells the reading of options where to go on, if this is the variable for that. -/
def noticed (s : State) (name value : String) : State :=
  if name ≠ "OPTIND" then s
  else if value ≠ "" ∧ value.toList.all Char.isDigit then
    s.seekOptions (Signal.number value.toList)
  else s.abort ("Illegal number: " ++ value)

def assign (s : State) (name value : String) : State :=
  let s := if (s.known name).fixed then s else s.noticed name value
  if s.goesOn then s.store name value else s

def unassign (s : State) (name : String) : State :=
  { s.searchedAnew name with bindings := s.bindings.filter (·.1 ≠ name) }

/-- A variable as it was before. -/
def restore (s : State) (name : String) (old : Option Variable) : State :=
  match old with
  | none => s.unassign name
  | some v => ((v.value.elim s (s.noticed name)).searchedAnew name).setVariable name v

def export_ (s : State) (name : String) : State :=
  s.setVariable name { s.known name with exported := true }

/-- The variables that a command is given. -/
def environment (s : State) : List (String × String) :=
  s.bindings.filterMap fun (name, v) =>
    if v.exported then v.value.map fun value => (name, value) else none

/-- The letters of the options that are set. -/
def optionLetters (s : State) : String :=
  let letter (set : Bool) (c : Char) : List Char := if set then [c] else []
  String.ofList (letter s.options.demandValues 'u' ++ letter s.options.exportAll 'a' ++
    letter s.options.keepFiles 'C' ++ letter s.options.verbose 'v' ++
    letter s.options.trace 'x' ++ letter s.options.streamed 's' ++
    letter s.options.readOnly 'n' ++ letter s.options.plainNames 'f' ++
    letter s.options.exitOnError 'e')

def numbered? (s : State) (digits : List Char) : Option String :=
  match digits.foldl (fun n c => n * 10 + (c.toNat - 48)) 0 with
  | 0 => some s.script
  | n + 1 => s.arguments[n]?

/-- The value of a parameter, if it has one. -/
def value? (s : State) (name : String) : Option String :=
  match name with
  | "#" => some (Decimal.natural s.arguments.length)
  | "?" => some (Decimal.natural s.status)
  | "$" => some (Decimal.natural s.processes.own)
  | "-" => some s.optionLetters
  | "!" => s.processes.ended.head?.map fun (process, _) => Decimal.natural process
  | _ => if name.toList.all Char.isDigit then s.numbered? name.toList else s.stored? name

/-- The characters that part fields, where no variable tells them. -/
def usualSeparators : String :=
  " \t\n"

/-- The characters that part fields. -/
def separators (s : State) : String :=
  (s.stored? "IFS").getD usualSeparators

end State

end Montage.Shell
