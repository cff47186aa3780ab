import Montage.Shell.Expansion
import Montage.Shell.Script

/-!
Processes: scripts run to their end, and what they leave behind.
-/

namespace Montage.Shell

/-- Runs one command. -/
abbrev Runner := Command → State → State

/-- Commands in order, until the script has to leave them. -/
def runAll (run : Runner) (body : List Command) (s : State) : State :=
  body.foldl (fun s c => if s.goesOn then run c s else s) s

/-- The next line of a script as it is written. -/
def showRead (before after : List Char) (s : State) : State :=
  let shown := before.take (before.length - after.length)
  { s.write 2 (pack (String.ofList shown)) with refused := s.refused }

/-- The lines of a script, each read when the ones before it have run. A script that goes on to its
end has `status`, that of its last command. -/
def runLines (run : Runner) (fuel : Nat) (isFile : Bool) : Nat → Reader → Nat → State → State
  | 0, _, _, s => s
  | lines + 1, r, status, s =>
    if !s.goesOn then s
    else
      let shown (after : List Char) (s : State) : State :=
        if isFile && s.options.verbose then showRead r.left after s else s
      match (readCommandLine fuel).run
        { r with aliases := s.aliases, documents := [], documentCount := s.documents.length } with
      | .error e =>
        let after := Reader.linesFrom (e.line + 1 - r.line) r.left
        { shown after s with line := e.line }.abort ("Syntax error: " ++ e.message)
      | .ok (none, r) => (shown r.left s).finish status
      | .ok (some body, r) =>
        let done := runAll run body
          { shown r.left s with documents := r.documents ++ s.documents, lineRead := r.line }
        runLines run fuel isFile lines r (if body.isEmpty then status else done.status) done

/-- Runs a script, which has the status `idle` if there is no command in it. -/
def runScript (run : Runner) (isFile : Bool) (idle : Nat) (text : List Char) (s : State) : State :=
  let fuel := readingLimit s.aliases text.length
  let done := runLines run fuel isFile (text.length + 1) (.start [] 0 text) idle s
  { done with lineRead := s.lineRead }

def runText (run : Runner) (text : List Char) (s : State) : State :=
  runScript run false s.status text s

/-- The characters of a file as a script; zero bytes do not count. -/
def scriptOf (bytes : Text.Bytes) : List Char :=
  charsFrom (bytes.filter (· ≠ 0))

def runFile (run : Runner) (bytes : Text.Bytes) (s : State) : State :=
  runScript run true s.status (scriptOf bytes) s

namespace State

/-- How a process ends, in a number that may be too large for others; a signal counts from 128. -/
def endStatus (s : State) : Nat :=
  match s.flow with
  | .leave code => code
  | .killed signal => 128 + signal
  | _ => s.status

/-- The last words of a script that ends by itself. -/
def farewells (run : Runner) (s : State) : State :=
  match s.flow, s.traps.lookup 0 with
  | .killed _, _ | _, none => s
  | _, some text =>
    let code := s.endStatus
    let s := runText run text.toList
      { s with
        traps := s.traps.filter (·.1 ≠ 0)
        parting := some code
        flow := .onward
        status := code }
    match s.flow with
    | .leave _ | .broken | .killed _ => s
    | _ => s.leave code

/-- A signal to the script: it has said what is to be done, or it ends. -/
def take (run : Runner) (s : State) (signal : Nat) : State :=
  match s.traps.lookup signal with
  | some "" => s
  | some text =>
    let done := { runText run text.toList { s with parting := s.parting.or (some s.status) } with
      parting := s.parting }
    if done.goesOn then done.finish s.status else done
  | none => if Signal.quiet.contains signal then s else { s with flow := .killed signal }

/-- Whether a signal ends the script at once. -/
def isFatal (s : State) (signal : Nat) : Bool :=
  (s.traps.lookup signal).isNone && !Signal.quiet.contains signal

/-- A signal that has been sent to the script and ends it does so at once. -/
def struck (s : State) : State :=
  let p := s.processes
  match if p.isChild then none else p.pending.find? fun (n, signal) => n = p.own && s.isFatal signal with
  | some (_, signal) => { s with flow := .killed signal }
  | none => s

/-- The other signals that have been sent to the script come to it, once each, when a command has
ended. -/
def deliver (run : Runner) (s : State) : State :=
  let p := s.processes
  if p.pending.isEmpty || p.isChild || !s.struck.goesOn then s.struck
  else
    let (mine, others) := p.pending.partition (·.1 = p.own)
    let each := (List.range Signal.limit).filter (mine.map (·.2)).contains
    each.foldl (fun s signal => if s.goesOn then s.take run signal else s)
      { s with processes := { p with pending := others } }

/-- A process begun by `before` goes on after another one, which leaves it the files, what it wrote
and how it ended. -/
def after (before inner : State) : State :=
  let endedBy := match inner.flow with
    | .killed signal => some signal
    | _ => none
  { before with
    disk := { inner.disk with
      workingDirectory := before.disk.workingDirectory
      mask := before.disk.mask }
    pipes := inner.pipes
    sources := inner.sources
    opened := inner.opened
    status := inner.endStatus % 256
    processes := { before.processes with
      next := inner.processes.next
      pending := inner.processes.pending
      endedBy := endedBy } }

/-- A process has ended that the script began, which the script may want to know. -/
def toldEnd (s : State) : State :=
  let p := s.processes
  if p.isChild || ((s.traps.lookup Signal.child).getD "").isEmpty then s
  else { s with processes := { p with pending := p.pending ++ [(p.own, Signal.child)] } }

/-- Something done in a process of its own. -/
def inProcess (run : Runner) (body : State → State) (s : State) : State :=
  let inner := { s with
    traps := s.traps.filter (·.2 = "")
    flow := .onward
    processes := { s.processes with isChild := true } }
  (s.after ((body inner).farewells run)).toldEnd

/-- Something done in a process of its own, and what it writes. -/
def captured (run : Runner) (body : State → State) (s : State) : State × Text.Bytes :=
  let number := s.pipes.length
  let inner := { s with pipes := s.pipes ++ [[]] }.setStream 1 (.pipe number)
  let done := inner.inProcess run body
  ({ done with pipes := done.pipes.take number, streams := s.streams }.struck,
    done.pipeBytes number)

end State

def dropLineFeeds (cs : List Char) : List Char :=
  (cs.reverse.dropWhile (· = '\n')).reverse

/-- What a script inside a word writes, without the ends of lines after it. -/
def capture (run : Runner) : Capture := fun script s =>
  if script.isEmpty then (s, []) else
  let (done, bytes) := { s with asking := false }.captured run (runAll run script)
  let cs := (byteText bytes).toList.filter (· ≠ Char.ofNat 0)
  ({ done with asking := s.asking, status := s.status, answered := some done.status },
    dropLineFeeds cs)

/-! ### Streams -/

/-- A name as the shell complains about it. -/
def complaint (missing : String) (e : FileError) : String :=
  match e with
  | .notFound | .notADirectory => missing
  | e => e.words

namespace State

/-- The file at a path opened under the number of a stream. -/
def openPath (s : State) (number : Nat) (path : String) (how : Opening) :
    Except FileError State :=
  match State.streamNumber? path with
  | some n =>
    match s.stream? n with
    | some stream => .ok (s.setStream number stream)
    | none => .error .notFound
  | none =>
    if how = .read then
      match s.disk.look (pathOf path) with
      | .ok (.file id) => .ok (s.openStream number ⟨id, 0, false, true, false⟩)
      | .ok _ => .ok (s.setStream number .directory)
      | .error e => .error e
    else do
      let (disk, id) ← s.disk.openFile (pathOf path)
      let disk := if how = .write then disk.refill id [] else disk
      let file : Opened :=
        ⟨id, 0, decide (how = Opening.append), decide (how = Opening.both), true⟩
      .ok ({ s with disk := disk }.openStream number file)

/-- A file that would be written over although the script keeps files. -/
def isKept (s : State) (path : String) (how : Opening) (force : Bool) : Bool :=
  s.options.keepFiles && how = .write && !force && s.disk.isFile (pathOf path)

/-- Where a stream is led, once the word that tells it is known. -/
inductive Lead
  | file (path : String) (how : Opening) (force : Bool)
  /-- Another stream, by its number, or none. -/
  | stream (number : Option Nat)
  | document (body : Word)

/-- The stream that a text stands for. -/
def streamLead? (text : String) : Option Lead :=
  match text.toList with
  | ['-'] => some (.stream none)
  | [c] => if c.isDigit then some (.stream (some (Signal.number [c]))) else none
  | _ => none

/-- Finds out where streams are led, before the first of them is led there. -/
def leadsOf (run : Runner) (redirects : Redirects) (s : State) : State × List (Nat × Lead) :=
  redirects.foldl (fun (s, leads) r =>
    if !s.goesOn then (s, leads)
    else match r.target with
      | .file word how force =>
        let (s, path) := wholeOf (capture run) word s
        (s, leads ++ [(r.stream, .file path how force)])
      | .stream word =>
        let (s, name) := wholeOf (capture run) word s
        match streamLead? name with
        | some lead => (s, leads ++ [(r.stream, lead)])
        | none =>
          (if s.goesOn then { s with line := s.lineRead }.abort "Syntax error: Bad fd number"
            else s, leads)
      | .document number =>
        (s, leads ++ [(r.stream, .document ((s.documents.lookup number).getD []))])) (s, [])

/-- A stream led somewhere else. A complaint tells why that is not possible. Where the stream is
`given` back later, it is put aside before, so that the complaints about its own cannot be seen. -/
def leadStream (run : Runner) (given : Bool) (s : State) : Nat × Lead → Except State State
  | (number, .file path how force) =>
    let opened := if s.isKept path how force then .error .alreadyExists
      else s.openPath number path how
    match opened with
    | .ok s => .ok s
    | .error e =>
      let isOpened := how = .read || (s.options.keepFiles && how = .write && !force &&
        s.disk.isThere (pathOf path) && !s.disk.isFile (pathOf path))
      let what := if isOpened then "cannot open " ++ path ++ ": " ++ complaint "No such file" e
        else "cannot create " ++ path ++ ": " ++ complaint "Directory nonexistent" e
      .error (s.report what)
  | (number, .stream none) => .ok (s.closeStream number)
  | (number, .stream (some other)) =>
    match s.streams.lookup other with
    | some stream => .ok (s.setStream number stream)
    | none =>
      if number = other then .ok s
      else
        let aside := if given then s.closeStream number else s
        .error (aside.report (Decimal.natural other ++ ": Bad file descriptor"))
  | (number, .document body) =>
    let (read, text) := textOf (capture run) body s
    if read.goesOn then .ok (read.feed number (pack text))
    else .error { read with flow := s.flow }

/-- All streams led elsewhere that are to be. -/
def leadStreams (run : Runner) (given : Bool) (redirects : Redirects) (s : State) :
    Except State State :=
  let (s, leads) := leadsOf run redirects s
  if s.goesOn then leads.foldlM (leadStream run given) s else .ok s

/-- Runs `body` with streams led elsewhere, which are as before after it. -/
def redirected (run : Runner) (given : Bool) (redirects : Redirects) (body failed : State → State)
    (s : State) : State :=
  match leadStreams run given redirects s with
  | .ok inner =>
    if inner.goesOn then { body inner with streams := s.streams }
    else { inner with streams := s.streams }
  | .error inner => failed { inner.finish 2 with streams := s.streams }

end State

end Montage.Shell
