import Montage.Random.Stream
import Montage.Record.Reader
import Montage.Record.Separator
import Montage.Record.Value
import Montage.Shell.Starting
import Montage.Utility.Input

/-!
A program at work: its variables, the record at hand, and what it reads and writes.
-/

namespace Montage.Record

open Shell

/-- What a name stands for. One that has not been used yet may become either. -/
inductive Cell
  | value (v : Value)
  | table (number : Nat)

/-- The entries of a table, the latest first. -/
abbrev Table := List (List Char × Value)

inductive OutletKind
  /-- What is printed if nothing else is said. -/
  | output
  | stream (number : Nat)
  | file (id : Nat)
  /-- A command that is run with what has been written, when it is closed. -/
  | command

structure Outlet where
  name : List Char
  kind : OutletKind
  /-- What waits until another program is started or the outlet is closed, the latest first. -/
  waiting : List (List Char)

/-- A file or a command whose records are read. -/
structure Feed where
  name : List Char
  isCommand : Bool
  rest : List Char
  /-- How the command ended. -/
  status : Nat

structure Job where
  shell : State
  globals : List (String × Cell)
  /-- The variables of the function that runs. -/
  locals : List (String × Cell)
  tables : Array Table
  record : List Char
  fields : List Value
  /-- The number of the argument that is read next. -/
  operand : Nat
  /-- What is left of the file that is read, if there is one. -/
  input : Option (List Char)
  /-- One of the arguments has been read as a file. -/
  hasRead : Bool
  feeds : List Feed
  /-- Those first that have been looked for last. -/
  outlets : List Outlet
  /-- The ranges of rules that have begun, by the numbers of the rules. -/
  ranges : List Nat
  seed : Value
  /-- What random numbers come from. -/
  window : Random.Window
  status : Nat

/-- Why what is done comes to an end. -/
inductive Stop
  | leaveLoop
  | nextRound
  | nextRecord
  | nextFile
  /-- The value of a function. -/
  | give (v : Value)
  | leave
  /-- Something is so wrong that nothing goes on. -/
  | abort

/-- A step of a job. -/
abbrev Act := ExceptT Stop (StateM Job)

namespace Job

/-! ### Variables -/

/-- A list in which a name stands for something. -/
def put (name : String) (cell : Cell) : List (String × Cell) → List (String × Cell)
  | [] => [(name, cell)]
  | (n, c) :: rest => if n = name then (name, cell) :: rest else (n, c) :: put name cell rest

def cell? (j : Job) (name : String) : Option Cell :=
  (j.locals.lookup name).or (j.globals.lookup name)

def setCell (j : Job) (name : String) (cell : Cell) : Job :=
  if (j.locals.lookup name).isSome then { j with locals := put name cell j.locals }
  else { j with globals := put name cell j.globals }

/-- The value of a variable of the whole program. -/
def known (j : Job) (name : String) : Value :=
  match j.globals.lookup name with
  | some (.value v) => v
  | _ => .unset

/-- The format of numbers that are joined to texts. -/
def textForm (j : Job) : List Char :=
  (j.known "CONVFMT").chars []

def chars (j : Job) (v : Value) : List Char :=
  match v with
  | .number x => (wholeDigits? x).getD (realBy j.textForm x)
  | v => v.chars []

def knownText (j : Job) (name : String) : List Char :=
  j.chars (j.known name)

def setGlobal (j : Job) (name : String) (v : Value) : Job :=
  { j with globals := put name (.value v) j.globals }

/-- A number that is one more than before. -/
def countUp (j : Job) (name : String) : Job :=
  j.setGlobal name (.number ((j.known name).real.add (.ofNat 1)))

end Job

/-! ### Complaints -/

/-- The job ends with a complaint. -/
def fail {α : Type} (text : String) : Act α := do
  modify fun j => { j with shell := j.shell.complain ("awk: " ++ text), status := 2 }
  throw .abort

/-- The job ends because a program has done what cannot be done. -/
def crash {α : Type} (text : String) : Act α := do
  let j ← get
  let shown (name : String) : String := String.ofList (j.knownText name)
  fail ("run time error: " ++ text ++ "\n\tFILENAME=\x22" ++ shown "FILENAME" ++ "\x22 FNR=" ++
    shown "FNR" ++ " NR=" ++ shown "NR")

/-- Something made of an expression that is looked for, where it is one. -/
def ofPattern {α : Type} (text : List Char) (read : Except Regex.Fault α) : Act α :=
  match read with
  | .ok found => pure found
  | .error fault => crash (patternMessage fault (String.ofList text))

def charsOf (v : Value) : Act (List Char) := do
  pure ((← get).chars v)

/-! ### The record -/

/-- The separator of fields at present. -/
def fieldSeparator : Act Separator := do
  let text := (← get).knownText "FS"
  ofPattern text (Separator.ofText text)

/-- A text as the record, with its fields. -/
def setRecord (cs : List Char) : Act Unit := do
  let separator ← fieldSeparator
  modify fun j => { j with record := cs, fields := (separator.split cs).map .entry }

def field (n : Nat) : Act Value := do
  let j ← get
  if n = 0 then pure (.entry j.record) else pure (j.fields[n - 1]?.getD .unset)

/-- So many fields, the last ones empty if there have been fewer. -/
def resized (fields : List Value) (count : Nat) : List Value :=
  fields.take count ++ List.replicate (count - fields.length) (.text [])

/-- Other fields, and the record that is put together from them. -/
def setFields (fields : List Value) : Act Unit :=
  modify fun j =>
    { j with fields := fields, record := (j.knownText "OFS").intercalate (fields.map j.chars) }

def setField (n : Nat) (v : Value) : Act Unit := do
  if n = 0 then setRecord (← charsOf v)
  else
    let fields := (← get).fields
    setFields ((resized fields (max n fields.length)).set (n - 1) v)

def setFieldCount (n : Int) : Act Unit := do
  if n < 0 then crash "negative value assigned to NF"
  else setFields (resized (← get).fields n.toNat)

/-- The number of a field that a value names. -/
def fieldNumber (v : Value) : Act Nat := do
  let n := wholePart v.real
  if n < 0 then crash ("negative field index $" ++ Decimal.integer n) else pure n.toNat

/-! ### Variables by their names -/

def fieldCountName : String :=
  "NF"

def getNamed (name : String) : Act Value := do
  let j ← get
  match j.cell? name with
  | some (.value v) => pure v
  | some (.table _) => pure .unset
  | none => if name = fieldCountName then pure (.ofNat j.fields.length) else pure .unset

def setNamed (name : String) (v : Value) : Act Unit := do
  if name = fieldCountName then setFieldCount (wholePart v.real)
  else modify (·.setCell name (.value v))

/-- What is given to a variable in front of a program or among the files. -/
def assignText (name : String) (cs : List Char) : Act Unit :=
  setNamed name (.entry cs)

/-! ### Tables -/

/-- The number of the table that a name stands for, which it does from now on. -/
def tableOf (name : String) : Act Nat := do
  let j ← get
  match j.cell? name with
  | some (.table n) => pure n
  | _ => do
    let n := j.tables.size
    set ({ j with tables := j.tables.push [] }.setCell name (.table n))
    pure n

def entries (table : Nat) : Act Table := do
  pure ((← get).tables[table]?.getD [])

def setEntries (table : Nat) (entries : Table) : Act Unit :=
  modify fun j => { j with tables := j.tables.modify table fun _ => entries }

def setEntry (table : Nat) (key : List Char) (v : Value) : Act Unit :=
  modify fun j => { j with tables := j.tables.modify table (add · ) }
where
  add (entries : Table) : Table :=
    if (entries.lookup key).isSome then
      entries.map fun (k, old) => if k = key then (k, v) else (k, old)
    else (key, v) :: entries

/-- An entry of a table, which is there from now on. -/
def getEntry (table : Nat) (key : List Char) : Act Value := do
  match (← entries table).lookup key with
  | some v => pure v
  | none => do
    setEntry table key .unset
    pure .unset

def removeEntry (table : Nat) (key : List Char) : Act Unit :=
  modify fun j => { j with tables := j.tables.modify table (·.filter (·.1 ≠ key)) }

/-- A number of 32 bits that stands for a name, mixed from its characters. -/
def digest (key : List Char) : UInt32 :=
  key.foldl (fun h c => (h ^^^ c.val) * 16777619) 2166136261

/-- How many groups there are into which the names of a table fall. -/
def groupCount : UInt32 :=
  64

/-- The names in a table in the order of the groups in which their digests are, those that have come
last first. -/
def keysOf (entries : Table) : List (List Char) :=
  (entries.map (·.1)).mergeSort fun a b => digest a % groupCount ≤ digest b % groupCount

/-! ### Writing -/

/-- A command run by the shell: the state after it, how it ended, and what it has written if that is
asked for. -/
def runCommand (start : Starter) (s : State) (command : List Char) (given : Option (List Char))
    (captured : Bool) : State × Nat × List Char :=
  let number := s.pipes.length
  let inner := match given with
    | some cs => s.feed 0 (bytesOf cs)
    | none => s
  let inner := if captured then
      { inner with pipes := inner.pipes ++ [[]] }.setStream 1 (.pipe number)
    else inner
  match inner.spawn start "/bin/sh" ["-c", String.ofList command] with
  | .ok done =>
    let status := match done.processes.endedBy with
      | some signal => 256 + signal
      | none => done.status
    let written := if captured then charsFrom (done.pipeBytes number) else []
    let pipes := if captured then done.pipes.take number else done.pipes
    let processes := { done.processes with endedBy := none }
    let after := { done with
      pipes := pipes
      streams := s.streams
      status := s.status
      processes := processes }
    (after, status, written)
  | .error _ => (s, 127, [])

/-- What an outlet has waiting is written, where it is no command. -/
def flushed (s : State) (o : Outlet) : State × Outlet :=
  let text := o.waiting.reverse.flatten
  match o.kind with
  | .output => (if text.isEmpty then s else Utility.put s text, { o with waiting := [] })
  | .file id => ({ s with disk := s.disk.append id (bytesOf text) }, { o with waiting := [] })
  | _ => (s, o)

/-- All that waits is written before another program writes. -/
def flushAll : Act Unit :=
  modify fun j =>
    let (s, outlets) := j.outlets.foldl (fun (s, outlets) o =>
      let (s, o) := flushed s o
      (s, outlets ++ [o])) (j.shell, [])
    { j with shell := s, outlets := outlets }

/-- An outlet is closed: a command is run now. -/
def closeOutlet (start : Starter) (o : Outlet) : Act Nat := do
  let j ← get
  match o.kind with
  | .command => do
    let (s, status, _) := runCommand start j.shell o.name (some o.waiting.reverse.flatten) false
    set { j with shell := s }
    pure status
  | _ => do
    set { j with shell := (flushed j.shell o).1 }
    pure 0

/-- All outlets are closed, at the end. -/
def closeAll (start : Starter) : Act Unit := do
  let outlets := (← get).outlets
  modify fun j => { j with outlets := [] }
  for o in outlets do
    discard (closeOutlet start o)

/-- Some text for an outlet. -/
def addText (o : Outlet) (cs : List Char) : Act Outlet := do
  match o.kind with
  | .stream n => do
    modify fun j => { j with shell := j.shell.write n (bytesOf cs) }
    pure o
  | _ => pure { o with waiting := cs :: o.waiting }

/-- The name of the outlet of what is printed. -/
def outputName : List Char :=
  "/dev/stdout".toList

/-- A text that is printed where nothing else is said. -/
def say (cs : List Char) : Act Unit :=
  modify fun j =>
    { j with outlets := j.outlets.map fun o =>
        match o.kind with
        | .output => { o with waiting := cs :: o.waiting }
        | _ => o }

/-- An outlet that has not been used yet. -/
def openOutlet (name : List Char) (isCommand append : Bool) : Act Outlet := do
  let path := String.ofList name
  let j ← get
  if isCommand then do
    flushAll
    pure ⟨name, .command, []⟩
  else if name = outputName then pure ⟨name, .output, []⟩
  else match State.streamNumber? path with
    | some n => pure ⟨name, .stream n, []⟩
    | none =>
      match j.shell.disk.openFile (pathOf path) with
      | .ok (d, id) => do
        let d := if append then d else d.refill id []
        set { j with shell := { j.shell with disk := d } }
        pure ⟨name, .file id, []⟩
      | .error e => fail ("cannot open \x22" ++ path ++ "\x22 for output (" ++ e.words ++ ")")

def Outlet.isCommand (o : Outlet) : Bool :=
  match o.kind with
  | .command => true
  | _ => false

/-- A text for an outlet by its name. -/
def sayTo (name : List Char) (isCommand append : Bool) (cs : List Char) : Act Unit := do
  let isIt (o : Outlet) : Bool := o.name = name && o.isCommand = isCommand
  let o ← match (← get).outlets.find? isIt with
    | some o => pure o
    | none => openOutlet name isCommand append
  let o ← addText o cs
  modify fun j => { j with outlets := o :: j.outlets.filter fun other => !isIt other }

/-! ### Reading -/

/-- What ends a record at present. -/
def recordEnding : Act Ending := do
  let text := (← get).knownText "RS"
  ofPattern text (Ending.ofText text)

/-- What a file holds, if it is there. -/
def fileText? (name : List Char) : Act (Option (List Char)) := do
  let j ← get
  match Utility.content j.shell (String.ofList name) with
  | .ok (s, bytes) => do
    set { j with shell := s }
    pure (some (charsFrom bytes))
  | .error e =>
    if e = .isADirectory || e = .badStream then fail ("read error (" ++ e.words ++ ")")
    else pure none

/-- The name and the value of an argument that assigns. -/
def assigned? (cs : List Char) : Option (String × List Char) :=
  let name := cs.takeWhile isNamePart
  match name, cs.drop name.length with
  | c :: _, '=' :: value => if isNameStart c then some (String.ofList name, value) else none
  | _, _ => none

/-- Opens the next file that is to be read; without any, the stream is read. -/
def openInput : Nat → Act Bool
  | 0 => pure false
  | fuel + 1 => do
    let j ← get
    let use (name cs : List Char) : Act Bool := do
      modify fun j => ({ j with input := some cs, hasRead := true }.setGlobal "FILENAME"
        (.entry name)).setGlobal "FNR" (.ofNat 0)
      pure true
    if (wholePart (j.known "ARGC").real) ≤ j.operand then
      if j.hasRead then pure false
      else use ['-'] ((← fileText? ['-']).getD [])
    else
      set { j with operand := j.operand + 1 }
      let arguments ← tableOf "ARGV"
      match (← entries arguments).lookup (Decimal.digits j.operand) with
      | none => openInput fuel
      | some v => do
        let cs := j.chars v
        match assigned? cs with
        | some (name, value) => do
          assignText name (unescaped value)
          openInput fuel
        | none =>
          if cs.isEmpty then openInput fuel
          else match ← fileText? cs with
            | some text => use cs text
            | none =>
              let reason := FileError.notFound.words
              fail ("cannot open \x22" ++ String.ofList cs ++ "\x22 (" ++ reason ++ ")")

/-- The next record of the files that the arguments name. -/
def nextRecord : Nat → Act (Option (List Char))
  | 0 => pure none
  | fuel + 1 => do
    let j ← get
    match j.input with
    | none => do
      let arguments := (wholePart (j.known "ARGC").real).toNat
      if ← openInput (arguments + 2) then nextRecord fuel else pure none
    | some cs =>
      match (← recordEnding).first? cs with
      | some (record, rest) => do
        modify fun j => ({ j with input := some rest }.countUp "NR").countUp "FNR"
        pure (some record)
      | none => do
        modify fun j => { j with input := none }
        nextRecord fuel

/-- More files than there can be. -/
def fileLimit : Nat :=
  100000

/-- The next record of a feed; it tells whether there was one. -/
def readFeed (feed : Feed) : Act (Option (List Char)) := do
  let found := (← recordEnding).first? feed.rest
  let others (j : Job) : List Feed :=
    j.feeds.filter fun other => other.name ≠ feed.name || other.isCommand ≠ feed.isCommand
  let rest := (found.map (·.2)).getD []
  modify fun j => { j with feeds := { feed with rest := rest } :: others j }
  pure (found.map (·.1))

/-- The feed of a name, opened if it is new; none if that is not possible. -/
def feed? (start : Starter) (name : List Char) (isCommand : Bool) : Act (Option Feed) := do
  let isIt (f : Feed) : Bool := f.name = name && f.isCommand = isCommand
  match (← get).feeds.find? isIt with
  | some f => pure (some f)
  | none =>
    if isCommand then do
      flushAll
      let j ← get
      let (s, status, text) := runCommand start j.shell name none true
      set { j with shell := s }
      pure (some ⟨name, true, text, status⟩)
    else pure ((← fileText? name).map fun text => ⟨name, false, text, 0⟩)

/-- Closes all that a name stands for: how a command ended, or that there was nothing. -/
def closeNamed (start : Starter) (name : List Char) : Act Int := do
  let j ← get
  let feeds := j.feeds.filter (·.name = name)
  let outlets := j.outlets.filter (·.name = name)
  set { j with
    feeds := j.feeds.filter (·.name ≠ name)
    outlets := j.outlets.filter (·.name ≠ name) }
  let mut status : Int := if feeds.isEmpty && outlets.isEmpty then -1 else 0
  for f in feeds do
    status := f.status
  for o in outlets do
    status := (← closeOutlet start o)
  pure status

end Montage.Record
