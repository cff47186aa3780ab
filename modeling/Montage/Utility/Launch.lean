import Montage.Shell.Starting
import Montage.Utility.Input
import Montage.Utility.Words

/-!
Commands that start another one: with other variables, for some time, or for what they read.
-/

namespace Montage.Utility

open Shell

/-- The status of a command whose program cannot be started. -/
def startTrouble (e : FileError) : Nat :=
  if e = .notFound then 127 else 126

/-- Runs a program; a file that names none is taken for a script. -/
def runProgram (start : Starter) (name : String) (args : List String) (s : State) : Started :=
  match s.spawn start name args with
  | .error .notAProgram => s.spawn start "/bin/sh" (name :: args)
  | started => started

/-- A program in place of the command. A complaint begins with `lead`. -/
def handOver (start : Starter) (lead name : String) (args : List String) (s : State) : State :=
  match runProgram start name args s with
  | .ok done => done
  | .error e => (s.complain (lead ++ ": " ++ e.words)).finish (startTrouble e)

/-! ### Variables -/

/-- The words of a text, with blanks between them. Quotes and backslashes keep what they are
about. -/
def wordsOf : Option Char → Option (List Char) → List Char → Option (List (List Char))
  | none, word, [] => some word.toList
  | some _, _, [] => none
  | none, word, c :: rest =>
    if Numeral.isSpace c then (wordsOf none none rest).map (word.toList ++ ·)
    else if c = '\x27' || c = '\x22' then wordsOf (some c) (some (word.getD [])) rest
    else match c, rest with
      | '\\', d :: rest => wordsOf none (some (word.getD [] ++ [d])) rest
      | c, rest => wordsOf none (some (word.getD [] ++ [c])) rest
  | some quote, word, c :: rest =>
    if c = quote then wordsOf none word rest
    else match quote, c, rest with
      | '\x22', '\\', d :: rest => wordsOf (some quote) (some (word.getD [] ++ [d])) rest
      | _, c, rest => wordsOf (some quote) (some (word.getD [] ++ [c])) rest

/-- The arguments with the words of a text that is to be split in front. -/
def splitLead (args : List String) : List String :=
  let split (text : List Char) (rest : List String) : List String :=
    (((wordsOf none none text).getD []).map String.ofList) ++ rest
  match args with
  | "-S" :: text :: rest => split text.toList rest
  | arg :: rest =>
    match arg.toList with
    | '-' :: 'S' :: text => split text rest
    | cs =>
      let lead := "--split-string=".toList
      if lead.isPrefixOf cs then split (cs.drop lead.length) rest else args
  | [] => []

/-- The state with a variable that is handed down, in its old place if there was one. -/
def withVariable (s : State) (name value : String) : State :=
  let v : Variable := ⟨some value, true, false⟩
  if (s.bindings.lookup name).isSome then
    { s with bindings := s.bindings.map fun (other, old) =>
      if other = name then (other, v) else (other, old) }
  else { s with bindings := (name, v) :: s.bindings }

/-- A name and a value, if an argument gives a variable its value. -/
def assignment? (arg : String) : Option (String × String) :=
  let cs := arg.toList
  let name := cs.takeWhile (· ≠ '=')
  if name.length < cs.length then
    some (String.ofList name, String.ofList (cs.drop (name.length + 1)))
  else none

/-- The place of a directory. -/
def directoryAt (d : Disk) (path : String) : Except FileError Place := do
  match ← d.look (pathOf path) with
  | .directory _ => (d.reach (pathOf path)).map Location.place
  | _ => .error .notADirectory

/-- Starts a program with other variables, or tells which ones there are. -/
def env (start : Starter) (s : State) (args : List String) : State :=
  let known := leadingOptions "iu:C:0v" [("ignore-environment", "i"), ("unset=", "u"),
    ("chdir=", "C"), ("null", "0"), ("debug", "v"), ("split-string=", "S")]
  withOptions "env" known 125 (fun s p =>
    let bare := p.has "i" || p.operands.head? = some "-"
    let operands := if p.operands.head? = some "-" then p.operands.drop 1 else p.operands
    let s := { s with bindings := if bare then [] else s.bindings.filter (·.2.exported) }
    match (p.values "u").find? fun name => name = "" || name.toList.contains '=' with
    | some name =>
      let reason := FileError.invalid.words
      (s.complain ("env: cannot unset " ++ quotedWord name ++ ": " ++ reason)).finish 125
    | none =>
      let s := (p.values "u").foldl State.unassign s
      let given := operands.takeWhile fun arg => (assignment? arg).isSome
      let assigned := given.filterMap assignment?
      let s := assigned.foldl (fun s (name, value) => withVariable s name value) s
      match operands.drop given.length, p.value? "C" with
      | [], some _ => misused s "env" "must specify command with --chdir (-C)" 125
      | [], none => printenv s (if p.has "0" then ["-0"] else [])
      | name :: args, directory =>
        if p.has "0" then misused s "env" "cannot specify --null (-0) with command" 125
        else match directory with
          | none => handOver start ("env: " ++ quotedWord name) name args s
          | some path =>
            match directoryAt s.disk path with
            | .error e =>
              (s.complain ("env: cannot change directory to " ++ quotedWord path ++ ": " ++
                e.words)).finish 125
            | .ok place =>
              let inner := { s with disk := { s.disk with workingDirectory := place } }
              handOver start ("env: " ++ quotedWord name) name args inner) s (splitLead args)

/-! ### How a program runs -/

def nohup (start : Starter) : State → List String → State :=
  withOptions "nohup" (leadingOptions "" []) 125 fun s p =>
    match p.operands with
    | [] => misused s "nohup" "missing operand" 125
    | name :: args =>
      handOver start ("nohup: failed to run command " ++ quotedWord name) name args s

/-- Arguments in which a number after a dash stands for the value of an option. -/
def withAdjustment (args : List String) : List String :=
  match args with
  | arg :: rest =>
    match arg.toList with
    | '-' :: digits =>
      if !digits.isEmpty && (digits.all Char.isDigit || (digits.head? = some '-' &&
          !(digits.drop 1).isEmpty && (digits.drop 1).all Char.isDigit)) then
        "-n" :: String.ofList digits :: rest
      else args
    | _ => args
  | [] => []

def nice (start : Starter) (s : State) (args : List String) : State :=
  withOptions "nice" (leadingOptions "n:" [("adjustment=", "n")]) 125 (fun s p =>
    match p.value? "n" with
    | some text =>
      let digits := (Numeral.signed text.toList).2
      if digits.isEmpty || !digits.all Char.isDigit then
        (s.complain ("nice: invalid adjustment " ++ quotedWord text)).finish 125
      else match p.operands with
        | [] => misused s "nice" "a command must be given with an adjustment" 125
        | name :: args => handOver start ("nice: " ++ quotedWord name) name args s
    | none =>
      match p.operands with
      | [] => s.say "0\n"
      | name :: args => handOver start ("nice: " ++ quotedWord name) name args s) s
    (withAdjustment args)

/-- Starts a program that is stopped after some time. -/
def timeout (start : Starter) : State → List String → State :=
  withOptions "timeout" (leadingOptions "k:s:v" [("kill-after=", "k"), ("signal=", "s"),
    ("verbose", "v"), ("foreground", "foreground"), ("preserve-status", "keep")]) 125 fun s p =>
    let signal := match p.value? "s" with
      | some text => Signal.ofText? text
      | none => some Signal.terminate
    match signal, p.operands with
    | none, _ =>
      misused s "timeout" (quotedWord ((p.value? "s").getD "") ++ ": invalid signal") 125
    | _, [] | _, [_] =>
      (s.complain "Try 'timeout --help' for more information.").finish 125
    | some signal, length :: name :: args =>
      match stretch? length with
      | none => misused s "timeout" ("invalid time interval " ++ quotedWord length) 125
      | some limit =>
        let lead := "timeout: failed to run command " ++ quotedWord name
        let done := handOver start lead name args s
        if limit = 0 || done.disk.now ≤ s.disk.now + limit then done
        else
          let done := { done with disk := { done.disk with now := s.disk.now + limit } }
          let done := if p.has "v" then
              done.complain ("timeout: sending signal " ++ Signal.name signal ++ " to command " ++
                quotedWord name)
            else done
          if signal = Signal.kill then
            { done.finish (128 + signal) with
              processes := { done.processes with endedBy := some signal } }
          else if p.has "keep" then done.finish (128 + signal)
          else done.finish 124

def setsid (start : Starter) : State → List String → State :=
  withOptions "setsid" (leadingOptions "cfw" [("ctty", "c"), ("fork", "f"), ("wait", "w")]) 1
    fun s p =>
    match p.operands with
    | [] => misused s "setsid" "no command specified" 1
    | name :: args => handOver start ("setsid: failed to execute " ++ name) name args s

def stdbuf (start : Starter) : State → List String → State :=
  withOptions "stdbuf" (leadingOptions "i:o:e:" [("input=", "i"), ("output=", "o"),
    ("error=", "e")]) 125 fun s p =>
    if p.options.isEmpty then misused s "stdbuf" "you must specify a buffering mode option" 125
    else match p.operands with
      | [] => misused s "stdbuf" "missing operand" 125
      | name :: args =>
        handOver start ("stdbuf: failed to run command " ++ quotedWord name) name args s

/-- Tells where programs are found. -/
def which (s : State) (args : List String) : State :=
  match (leadingOptions "as" []).parse args with
  | .error (.unknownLetter c) =>
    let usage := "Usage: /usr/bin/which [-as] args"
    (s.complain ("Illegal option -" ++ String.ofList [c] ++ "\n" ++ usage)).finish 2
  | .error _ => (s.complain "Illegal option --\nUsage: /usr/bin/which [-as] args").finish 2
  | .ok p =>
    let places (name : String) : List String :=
      let spots := if name.toList.contains '/' then [name]
        else s.searchPath.map fun directory => State.candidate directory name
      let found := spots.filter s.isProgram
      if p.has "a" then found else found.take 1
    let found := p.operands.map places
    let s := if p.has "s" then s
      else s.say (String.join (found.flatten.map fun place => place ++ "\n"))
    s.finish (if found.isEmpty || found.any List.isEmpty then 1 else 0)

/-! ### Arguments that are read -/

/-- What is read for a command: a piece of text, and whether it is the last one of its line. -/
structure ReadWord where
  text : List Char
  endsLine : Bool

/-- How what is read is cut into pieces. -/
inductive Separation
  /-- At blanks and ends of lines; quotes and backslashes keep what they are about. -/
  | words
  /-- At ends of lines; the rest is the same. -/
  | lines
  /-- At one character, and nothing else counts. -/
  | at (c : Char)
  deriving DecidableEq

/-- Cuts a text at blanks. The first value is the quote that is open, the next one the piece that
has begun. A quote that is not closed ends all. -/
def cutWords (lines : Bool) : Option Char → Option (List Char) → List ReadWord → List Char →
    List ReadWord × Option Char
  | none, some text, found, [] => ((⟨text, true⟩ :: found).reverse, none)
  | none, none, found, [] => (found.reverse, none)
  | some quote, _, found, [] => (found.reverse, some quote)
  | some quote, word, found, c :: rest =>
    if c = quote then cutWords lines none word found rest
    else if c = '\n' then (found.reverse, some quote)
    else cutWords lines (some quote) (some (word.getD [] ++ [c])) found rest
  | none, word, found, '\\' :: c :: rest =>
    cutWords lines none (some (word.getD [] ++ [c])) found rest
  | none, word, found, c :: rest =>
    if c = '\n' then
      let found := match word, found with
        | some text, found => ⟨text, true⟩ :: found
        | none, found => found
      cutWords lines none none found rest
    else if (c = ' ' || c = '\t') && (!lines || word.isNone) then
      let found := match word with
        | some text => ⟨text, false⟩ :: found
        | none => found
      cutWords lines none none found rest
    else if c = '\x27' || c = '\x22' then cutWords lines (some c) (some (word.getD [])) found rest
    else cutWords lines none (some (word.getD [] ++ [c])) found rest

/-- The pieces of a text, and a quote that was not closed. -/
def Separation.pieces (cutting : Separation) (cs : List Char) : List ReadWord × Option Char :=
  match cutting with
  | .words => cutWords false none none [] cs
  | .lines => cutWords true none none [] cs
  | .at c => ((bareLines c cs).map (⟨·, true⟩), none)

/-- Groups of at most so many pieces. -/
def groupsOf (count : Nat) : Nat → List ReadWord → List (List ReadWord)
  | 0, _ | _, [] => []
  | fuel + 1, pieces => pieces.take count :: groupsOf count fuel (pieces.drop count)

/-- The pieces of each line. -/
def lineGroups : List ReadWord → List (List ReadWord)
  | [] => []
  | piece :: rest =>
    if piece.endsLine then [piece] :: lineGroups rest
    else match lineGroups rest with
      | [] => [[piece]]
      | group :: groups => (piece :: group) :: groups

def joinGroups (count : Nat) : Nat → List (List ReadWord) → List (List ReadWord)
  | 0, _ | _, [] => []
  | fuel + 1, groups => (groups.take count).flatten :: joinGroups count fuel (groups.drop count)

/-- A text with another one in place of a mark. -/
def replaceMark (mark by_ : List Char) : Nat → List Char → List Char
  | 0, cs => cs
  | _ + 1, [] => []
  | fuel + 1, c :: rest =>
    if !mark.isEmpty && mark.isPrefixOf (c :: rest) then
      by_ ++ replaceMark mark by_ fuel ((c :: rest).drop mark.length)
    else c :: replaceMark mark by_ fuel rest

/-- How far the calls of a command have come: the state, whether one failed, and whether no more are
made. -/
structure Calls where
  state : State
  failed : Bool
  stopped : Bool

/-- One more call. -/
def Calls.add (start : Starter) (shown : Bool) (calls : Calls) (words : List String) : Calls :=
  if calls.stopped then calls
  else match words with
    | [] => calls
    | name :: args =>
      let s := if shown then
          calls.state.complain (" ".intercalate (words.map shownName)) else calls.state
      match runProgram start name args s with
      | .error e =>
        let done := (s.complain ("xargs: " ++ name ++ ": " ++ e.words)).finish (startTrouble e)
        ⟨done, true, true⟩
      | .ok done =>
        match done.processes.endedBy with
        | some signal =>
          let text := "xargs: " ++ name ++ ": terminated by signal " ++ Decimal.natural signal
          let done := { done with processes := { done.processes with endedBy := none } }
          ⟨(done.complain text).finish 125, true, true⟩
        | none =>
          if done.status = 255 then
            let text := "xargs: " ++ name ++ ": exited with status 255; aborting"
            ⟨(done.complain text).finish 124, true, true⟩
          else ⟨done, calls.failed || done.status ≠ 0, false⟩

/-- Escapes that may name the character at which a text is cut. -/
def cuttingChar (text : String) : Char :=
  match text.toList with
  | ['\\', 'n'] => '\n'
  | ['\\', 't'] => '\t'
  | ['\\', '0'] => '\x00'
  | ['\\', c] => c
  | c :: _ => c
  | [] => '\x00'

/-- Starts a command with what is read as arguments. -/
def xargs (start : Starter) : State → List String → State :=
  withOptions "xargs" (leadingOptions "0a:d:E:e::I:i::L:l::n:P:prs:tx" [("null", "0"),
    ("arg-file=", "a"), ("delimiter=", "d"), ("eof?", "e"), ("replace?", "i"), ("max-lines?", "l"),
    ("max-args=", "n"), ("max-procs=", "P"), ("interactive", "p"), ("no-run-if-empty", "r"),
    ("max-chars=", "s"), ("verbose", "t"), ("exit", "x")]) 1 fun s p =>
    let wrongCount := ["n", "L"].find? fun key =>
      (p.value? key).any fun text => text.isEmpty || !text.toList.all Char.isDigit
    let zeroCount := ["n", "L"].find? fun key =>
      (p.value? key).any fun text => Numeral.value text.toList = 0
    match wrongCount, zeroCount with
    | some key, _ =>
      misused s "xargs" ("invalid number \x22" ++ (p.value? key).getD "" ++ "\x22 for -" ++ key ++
        " option") 1
    | none, some key =>
      misused s "xargs" ("value 0 for -" ++ key ++ " option should be >= 1") 1
    | none, none =>
      let mark : Option String := match p.last? ["I", "i"] with
        | some "I" => p.value? "I"
        | some _ => some ((p.value? "i").getD "\x7b\x7d")
        | none => none
      let cutting : Separation := if p.has "0" then .at '\x00'
        else match p.value? "d" with
          | some text => .at (cuttingChar text)
          | none => if mark.isSome then .lines else .words
      let command := if p.operands.isEmpty then ["echo"] else p.operands
      match content s ((p.value? "a").getD "-") with
      | .error e =>
        let name := (p.value? "a").getD "-"
        let what := "xargs: Cannot open input file " ++ quotedWord name
        (s.complain (what ++ ": " ++ e.words)).finish 1
      | .ok (s, bytes) =>
        let (pieces, unclosed) := cutting.pieces (charsFrom bytes)
        let pieces := match p.value? "E" with
          | some last => pieces.takeWhile fun (piece : ReadWord) => piece.text ≠ last.toList
          | none => pieces
        let words (group : List ReadWord) : List String :=
          command ++ group.map fun piece => String.ofList piece.text
        let count? (key : String) : Option Nat :=
          (p.value? key).map fun text => Numeral.value text.toList
        let lineCount := (count? "L").or (if p.has "l" then some ((count? "l").getD 1) else none)
        let calls : List (List String) := match mark with
          | some mark =>
            let filled (text : List Char) (word : String) : String :=
              String.ofList (replaceMark mark.toList text (word.length + 1) word.toList)
            pieces.map fun (piece : ReadWord) => command.map (filled piece.text)
          | none =>
            let groups := match p.last? ["n", "L", "l"], count? "n", lineCount with
              | some "n", some n, _ => groupsOf n (pieces.length + 1) pieces
              | some _, _, some n => joinGroups n (pieces.length + 1) (lineGroups pieces)
              | _, _, _ => if pieces.isEmpty then [] else [pieces]
            if groups.isEmpty && !p.has "r" then [command] else groups.map words
        let s := match unclosed with
          | some quote =>
            s.complain ("xargs: unmatched " ++ (if quote = '\x27' then "single" else "double") ++
              " quote; by default quotes are special to xargs unless you use the -0 option")
          | none => s
        let silent := s.feed 0 []
        let done := calls.foldl (Calls.add start (p.has "t")) ⟨silent, false, false⟩
        let s := { done.state with streams := s.streams }
        if unclosed.isSome then s.finish 1
        else if done.stopped then s
        else s.finish (if done.failed then 123 else 0)

end Montage.Utility
