import Montage.Shell.Machine
import Montage.Shell.Process
import Montage.Shell.Test

/-!
Programs: scripts among the files, and the programs of the system.
-/

namespace Montage.Shell

/-- The program that the first line of a script names, and the one argument it may add. -/
def interpreter? (script : List Char) : Option (String × List String) :=
  match script with
  | '#' :: '!' :: rest =>
    let line := (rest.takeWhile (· ≠ '\n')).dropWhile isBlank
    let name := line.takeWhile (!isBlank ·)
    let more := (((line.drop name.length).dropWhile isBlank).reverse.dropWhile isBlank).reverse
    if name.isEmpty then none
    else some (String.ofList name, if more.isEmpty then [] else [String.ofList more])
  | _ => none

namespace State

/-- The working directory as a shell is told of it, if it is told the truth. -/
def knownDirectory (s : State) (told : Option String) : String :=
  let here := placeText s.disk.workingDirectory
  match told with
  | none => here
  | some path =>
    if path.toList.head? = some '/' && samePlace s.disk path here then path else here

/-- The values of variables in a new shell that has not been told others. -/
def usualValues : List (String × String) :=
  [("PATH", "/usr/local/sbin:/usr/local/bin:/usr/sbin:/usr/bin:/sbin:/bin"), ("PS1", "# "),
    ("PS2", "> "), ("PS4", "+ ")]

/-- A new process of the shell: it has only what is handed down. -/
def fresh (s : State) (script : String) (args : List String) : State :=
  let p := s.processes
  let here := s.knownDirectory (s.environment.lookup "PWD")
  let handed := s.environment.map fun (name, value) => (name, (⟨some value, true, false⟩ : Variable))
  let own := [("IFS", usualSeparators), ("OPTIND", "1"), ("PPID", Decimal.natural p.own)]
  let told := (usualValues.filter fun (name, _) => (handed.lookup name).isNone) ++ own
  let given := told.foldl (fun all (name, value) =>
    (name, ⟨some value, (all.lookup name).isSome, false⟩) :: all.filter (·.1 ≠ name)) handed
  { s with
    script := script
    arguments := args
    bindings := ("PWD", ⟨some here, true, false⟩) :: given.filter (·.1 ≠ "PWD")
    directory := here
    remembered := []
    functions := []
    aliases := []
    options := .none
    line := 1
    lineRead := 1
    documents := []
    status := 0
    loops := 0
    asking := false
    parting := none
    command := ""
    optionIndex := 1
    optionOffset := none
    processes := { p with
      own := p.next
      waiting := p.own :: p.waiting
      next := p.next + 1
      ended := []
      isChild := false }
    functionDepth := 0
    kept := none }

def setOption (s : State) (letter : Char) (on : Bool) : State :=
  match letter with
  | 'e' => { s with options := { s.options with exitOnError := on } }
  | 'u' => { s with options := { s.options with demandValues := on } }
  | 'f' => { s with options := { s.options with plainNames := on } }
  | 'x' => { s with options := { s.options with trace := on } }
  | 'C' => { s with options := { s.options with keepFiles := on } }
  | 'a' => { s with options := { s.options with exportAll := on } }
  | 'n' => { s with options := { s.options with readOnly := on } }
  | 'v' => { s with options := { s.options with verbose := on } }
  | 's' => { s with options := { s.options with streamed := on } }
  | _ => s

/-- The options of the shell by their letters; the last ones have none. -/
def optionNames : List (Option Char × String) :=
  [(some 'e', "errexit"), (some 'f', "noglob"), (some 'I', "ignoreeof"), (some 'i', "interactive"),
    (some 'm', "monitor"), (some 'n', "noexec"), (some 's', "stdin"), (some 'x', "xtrace"),
    (some 'v', "verbose"), (some 'V', "vi"), (some 'E', "emacs"), (some 'C', "noclobber"),
    (some 'a', "allexport"), (some 'b', "notify"), (some 'u', "nounset"), (some 'p', "privileged"),
    (none, "nolog"), (none, "debug")]

/-- All options and whether they are set, or as the commands that set them so. -/
def listOptions (s : State) (isSet : Option Char → Bool) (asCommands : Bool) : State :=
  let line : Option Char × String → String
    | (letter, name) =>
      if asCommands then "set " ++ (if isSet letter then "-o " else "+o ") ++ name ++ "\n"
      else
        name ++ String.ofList (List.replicate (16 - name.length) ' ') ++
          (if isSet letter then "on\n" else "off\n")
  let title := if asCommands then "" else "Current option settings\n"
  s.say (title ++ String.join (optionNames.map line))

/-- What options in front of other arguments have led to. -/
structure Taken where
  state : State
  /-- The arguments after the options. -/
  rest : List String
  /-- Those arguments were told to be such. -/
  isTold : Bool
  /-- The first of them is a script. -/
  isText : Bool

/-- Options by their letters. The letter `o` takes a name from the other arguments, and the letter
`c` tells that a command line holds a script. An option that does not exist is an error. -/
def takeLetters (onCommandLine on : Bool) : List Char → Taken → Except (String × State) Taken
  | [], t => .ok t
  | 'o' :: letters, t =>
    match t.rest with
    | [] =>
      let isSet (letter : Option Char) : Bool :=
        onCommandLine || letter.any t.state.optionLetters.toList.contains
      takeLetters onCommandLine on letters { t with state := t.state.listOptions isSet !on }
    | name :: rest =>
      match optionNames.find? (·.2 = name) with
      | some (letter, _) =>
        let state := letter.elim t.state (t.state.setOption · on)
        takeLetters onCommandLine on letters { t with state := state, rest := rest }
      | none => .error ("o " ++ name, t.state)
  | c :: letters, t =>
    if onCommandLine && c = 'c' then takeLetters onCommandLine on letters { t with isText := true }
    else if onCommandLine && c = 'l' then takeLetters onCommandLine on letters t
    else if (optionNames.lookup (some c)).isSome then
      takeLetters onCommandLine on letters { t with state := t.state.setOption c on }
    else .error (String.ofList [c], t.state)

/-- Options in front of other arguments, of which there are at most as many as the number tells. -/
def takeOptions (onCommandLine : Bool) : Nat → Taken → Except (String × State) Taken
  | 0, t => .ok t
  | most + 1, t =>
    match t.rest with
    | [] => .ok t
    | arg :: rest =>
      match arg.toList with
      | ['-', '-'] => .ok { t with rest := rest, isTold := true }
      | ['-'] =>
        let state := if onCommandLine then t.state
          else (t.state.setOption 'x' false).setOption 'v' false
        .ok { t with state := state, rest := rest }
      | '-' :: letters => do
        takeOptions onCommandLine most
          (← takeLetters onCommandLine true letters { t with rest := rest })
      | '+' :: letters => do
        takeOptions onCommandLine most
          (← takeLetters onCommandLine false letters { t with rest := rest })
      | _ => .ok t

def optionsOf (onCommandLine : Bool) (args : List String) (s : State) :
    Except (String × State) Taken :=
  takeOptions onCommandLine args.length ⟨s, args, false, false⟩

/-- A script that a shell reads from the stream. -/
def runStream (run : Runner) (s : State) : State :=
  runFile run (s.waiting 0) (s.leaveWaiting 0 [])

/-- The shell as a program: it runs a text, a file, or what it reads. -/
def shell (run : Runner) (name : String) (args : List String) (s : State) : State :=
  s.inProcess run fun s =>
    let refuse (s : State) (what : String) : State := (s.complain (name ++ ": 0: " ++ what)).leave 2
    match optionsOf true args (s.fresh name []) with
    | .error (option, s) => refuse s ("Illegal option -" ++ option)
    | .ok t =>
      let s := t.state
      match t.rest with
      | [] =>
        if t.isText then refuse s "-c requires an argument" else runStream run (s.setOption 's' true)
      | arg :: rest =>
        if t.isText then
          let s := { s with script := rest.head?.getD name, arguments := rest.drop 1 }
          let s := runText run arg.toList s
          if s.goesOn && s.options.streamed then runStream run s else s
        else if s.options.streamed then runStream run { s with arguments := arg :: rest }
        else match Utility.content s arg with
          | .ok (s, bytes) => runFile run bytes { s with script := arg, arguments := rest }
          | .error e => refuse s ("cannot open " ++ arg ++ ": " ++ complaint "No such file" e)

/-- A file was found that may not be run. -/
def isRefused : Started → Bool
  | .error .permissionDenied => true
  | _ => false

/-- Where programs are looked for when no variable says it. -/
def systemSearch : Variable :=
  ⟨some "/bin:/usr/bin", false, false⟩

def withSearch (s : State) : State :=
  if (s.stored? "PATH").isSome then s else s.setVariable "PATH" systemSearch

/-- A program of the system that has ended. One that could not write complains about that. -/
def settled (name : String) (s : State) : State :=
  match s.refused with
  | none => s
  | some e =>
    let what := if name = "cat" && e = .badStream then ": standard output: " else ": write error: "
    { (s.complain (name ++ what ++ e.words)).finish (Utility.writeTrouble name) with
      refused := none }

mutual

/-- Starts the file at a path: a program of the system, or a script by the program that its first
line names. -/
def startFile (run : Runner) (depth : Nat) (called path : String) (args : List String)
    (s : State) : Started :=
  match depth with
  | 0 => .error .tooManyLinks
  | depth + 1 => do
    match ← s.disk.look (pathOf path) with
    | .file id =>
      let content := s.disk.content id
      if !content.executable || content.isDevice then .error .permissionDenied
      else match content.kind, interpreter? (charsFrom content.bytes) with
        | .program name, _ => standard run depth called name args s
        | _, none => .error .notAProgram
        | _, some (program, extra) =>
          startFile run depth program program (extra ++ path :: args) s
    | _ => .error .permissionDenied

/-- Starts a program of the system. -/
def standard (run : Runner) (depth : Nat) (called name : String) (args : List String) (s : State) :
    Started :=
  match depth with
  | 0 => .error .tooManyLinks
  | depth + 1 =>
    if shells.contains name then .ok (shell run called args s)
    else match Utility.table.lookup name with
      | some action =>
        let start : Starter := fun name args s =>
          if name = "" then .error .notFound else startNamed run depth name args s.withSearch
        .ok (settled name (action start s.starting args))
      | none => .error .notFound

/-- Starts a program by its name, which is looked for along the search path unless it has a
slash. -/
def startNamed (run : Runner) (depth : Nat) (name : String) (args : List String) (s : State) :
    Started :=
  match depth with
  | 0 => .error .tooManyLinks
  | depth + 1 =>
    if name.toList.contains '/' then startFile run depth name name args s
    else if Spot.nameLimit < name.length then .error .nameTooLong
    else
      let directories := s.searchPath
      -- A file that may not be run is remembered, but the search goes on.
      directories.foldl (fun found directory =>
        match found with
        | .error .notFound | .error .notADirectory | .error .permissionDenied =>
          match startFile run depth name (candidate directory name) args s with
          | .error .notFound => if isRefused found then found else .error .notFound
          | .error .notADirectory => if isRefused found then found else .error .notADirectory
          | result => result
        | found => found)
        (.error (if name = "." ∨ name = ".." then .permissionDenied else .notFound))

end

/-- How many programs may be started to start one. -/
def startDepth : Nat :=
  200

/-- Starts a program for a script. One that cannot be started is reported. -/
def launch (run : Runner) (name : String) (args : List String) (s : State) : State :=
  match startNamed run startDepth name args s.starting with
  | .ok s => s
  | .error .notAProgram =>
    -- A file that names no program is taken for a script.
    shell run "sh" (name :: args) s.starting
  | .error e =>
    -- A file has been found, and something else than its path keeps it from running.
    let isThere := name.toList.contains '/' ||
      s.searchPath.any fun directory => s.disk.isFile (pathOf (candidate directory name))
    let isMissing := [.notFound, .notADirectory, .tooManyLinks, .nameTooLong].contains e
    (s.report (name ++ ": " ++ complaint "not found" e)).finish
      (if isThere && !isMissing then 126 else 127)

/-- A program that a script calls, and a word when a signal has ended it. -/
def call (run : Runner) (name : String) (args : List String) (s : State) : State :=
  let s := { s with processes := { s.processes with endedBy := none } }
  let done := (launch run name args (s.remember name)).toldEnd
  match done.processes.endedBy with
  | some signal => if Signal.isNotable signal then done.complain (Signal.words signal) else done
  | none => done

end State

end Montage.Shell
