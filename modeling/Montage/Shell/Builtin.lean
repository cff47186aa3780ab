import Montage.Disk.Mode
import Montage.Shell.Format
import Montage.Shell.Program

/-!
The commands that the shell itself carries out.
-/

namespace Montage.Shell.State

/-! ### Arguments -/

/-- A number given to a command of the shell. -/
def countOf (s : State) (args : List String) (default : Nat) : Except State Nat :=
  match args with
  | [] => .ok default
  | arg :: _ =>
    match Numeral.natural? (pow2 31) arg.toList with
    | some n => if arg.toList.head? = some '+' then wrong arg else .ok n
    | none => wrong arg
where
  wrong (arg : String) : Except State Nat :=
    .error (s.abort ("Illegal number: " ++ arg))

/-- The options in one argument, each with its value. A letter of `valued` takes what comes after it,
or where that is nothing, the next argument. -/
def lettersIn (known valued : List Char) : List Char → Except Char (List (Char × Option String))
  | [] => .ok []
  | c :: rest =>
    if valued.contains c then .ok [(c, if rest.isEmpty then none else some (String.ofList rest))]
    else if known.contains c then do .ok ((c, some "") :: (← lettersIn known valued rest))
    else .error c

/-- The options in front, each with its value, and the arguments after them. -/
def lettersOf (known valued : String) :
    List String → Except String (List (Char × String) × List String)
  | [] => .ok ([], [])
  | arg :: rest =>
    match arg.toList with
    | '-' :: c :: letters =>
      if c = '-' && letters.isEmpty then .ok ([], rest)
      else match lettersIn known.toList valued.toList (c :: letters) with
        | .error c => .error ("Illegal option -" ++ String.ofList [c])
        | .ok found =>
          let with_ (value : String) : List (Char × String) :=
            found.map fun (c, own) => (c, own.getD value)
          match found.getLast?, rest with
          | some (c, none), [] => .error ("No arg for -" ++ String.ofList [c] ++ " option")
          | some (_, none), value :: rest => do
            let (more, rest) ← lettersOf known valued rest
            .ok (with_ value ++ more, rest)
          | _, rest => do
            let (more, rest) ← lettersOf known valued rest
            .ok (with_ "" ++ more, rest)
    | _ => .ok ([], arg :: rest)

/-- A command of the shell by its options and the other arguments. -/
def withLetters (known : String) (args : List String) (body : List Char → List String → State)
    (s : State) : State :=
  match lettersOf known "" args with
  | .ok (found, args) => body (found.map (·.1)) args
  | .error text => s.abort text

/-- Does something with one argument after another. A mistake leaves the others out. -/
def inTurn (s : State) (step : State → String → Except State State) (args : List String) : State :=
  match args.foldlM step s with
  | .ok s | .error s => s

/-! ### Flow -/

def exit (s : State) (args : List String) : State :=
  match s.countOf args (s.parting.getD s.status) with
  | .ok n => s.leave n
  | .error s => s

def return_ (s : State) (args : List String) : State :=
  match s.countOf args s.status with
  | .ok n => { s with status := n, flow := .leaveFunction }
  | .error s => s

def shift (s : State) (args : List String) : State :=
  match s.countOf args 1 with
  | .ok n =>
    if n ≤ s.arguments.length then
      { s.seekOptions 1 with arguments := s.arguments.drop n, status := 0 }
    else s.abort "can't shift that many"
  | .error s => s

/-- Leaves some loops, or goes on with the next round of one; nothing outside of loops. -/
def leaveLoops (s : State) (flow : Nat → Flow) (args : List String) : State :=
  match s.countOf args 1 with
  | .ok n =>
    if n = 0 then s.abort "Illegal number: 0"
    else if s.loops = 0 then s.finish 0
    else { s with status := 0, flow := flow (min n s.loops) }
  | .error s => s

/-! ### Variables -/

/-- A name and the value after its equals sign, if it has one. -/
def binding (arg : String) : String × Option String :=
  let name := arg.toList.takeWhile (· ≠ '=')
  let value := if name.length < arg.length then
    some (String.ofList (arg.toList.drop (name.length + 1))) else none
  (String.ofList name, value)

/-- A text in quotes, each quote of its own kind in quotes of the other. -/
def requoted (text : String) : String :=
  let piece (cs : List Char) : String :=
    if cs.head? = some '\x27' then "\x22" ++ String.ofList cs ++ "\x22"
    else "\x27" ++ String.ofList cs ++ "\x27"
  let pieces := text.toList.splitBy fun a b => (a = '\x27') = (b = '\x27')
  let lead := if text = "" ∨ text.toList.head? = some '\x27' then "\x27\x27" else ""
  lead ++ String.join (pieces.map piece)

/-- All variables with their values. -/
def showVariables (s : State) : State :=
  let shown := s.bindings.mergeSort fun a b => decide (a.1 ≤ b.1)
  (s.say (String.join (shown.filterMap fun (name, v) =>
    v.value.map fun text => name ++ "=" ++ requoted text ++ "\n"))).finish 0

/-- Switches options, and takes what follows them for the arguments of the script. -/
def setOptions (s : State) (args : List String) : State :=
  if args.isEmpty then s.showVariables
  else match optionsOf false args s with
    | .error (option, s) => s.abort ("Illegal option -" ++ option)
    | .ok t =>
      (if t.isTold || !t.rest.isEmpty then { t.state.seekOptions 1 with arguments := t.rest }
      else t.state).finish 0

/-- All variables of a kind, as the command that makes them such. -/
def showAll (s : State) (command : String) (kind : Variable → Bool) : State :=
  let shown := (s.bindings.filter fun (_, v) => kind v).mergeSort fun a b => decide (a.1 ≤ b.1)
  (s.say (String.join (shown.map fun (name, v) =>
    command ++ " " ++ name ++ ((v.value.map fun text => "=" ++ requoted text).getD "") ++
      "\n"))).finish 0

/-- Marks variables, and gives them values where those are told. -/
def markAll (command : String) (kind : Variable → Bool) (mark : Variable → Variable)
    (s : State) (args : List String) : State :=
  s.withLetters "p" args fun letters args =>
    if letters.contains 'p' || args.isEmpty then s.showAll command kind
    else args.foldl (fun s arg =>
      if !s.goesOn then s
      else
        let (name, value) := binding arg
        if !isName name then s.abort (name ++ ": bad variable name")
        else
          let s := match value with
            | some value => s.assign name value
            | none => s
          if s.goesOn then s.setVariable name (mark (s.known name)) else s) (s.finish 0)

def exportAll : State → List String → State :=
  markAll "export" Variable.exported fun v => { v with exported := true }

def fixAll : State → List String → State :=
  markAll "readonly" Variable.fixed fun v => { v with fixed := true }

/-- Variables that get back their values when the function ends; a dash stands for the options. -/
def localAll (s : State) (args : List String) : State :=
  match s.kept with
  | none => s.abort "not in a function"
  | some _ =>
    args.foldl (fun s arg =>
      let (name, value) := binding arg
      let keep (kept : Kept) : Kept :=
        if arg = "-" then { kept with options := kept.options.or (some s.options) }
        else { kept with bindings := (name, s.bindings.lookup name) :: kept.bindings }
      if !s.goesOn then s
      else if arg ≠ "-" && !isName name then s.abort (name ++ ": bad variable name")
      else
        let s := { s with kept := s.kept.map keep }
        match value with
        | some value => s.assign name value
        | none => s) (s.finish 0)

def unsetAll (s : State) (args : List String) : State :=
  s.withLetters "fv" args fun letters names =>
    names.foldl (fun s arg =>
      let name := (binding arg).1
      if !s.goesOn then s
      else if letters.contains 'f' then
        { s with functions := s.functions.filter (·.1 ≠ arg) }
      else if !isName name then s.abort (name ++ ": bad variable name")
      else if (s.known name).fixed then s.abort (name ++ ": is read only")
      else
        let s := s.noticed name ""
        if s.goesOn then s.unassign name else s) (s.finish 0)

/-- The names of a path after dots have been followed by the words alone. -/
def settledNames (names : List String) : List String :=
  (names.foldl (fun kept name => if name = ".." then kept.drop 1 else name :: kept) []).reverse

/-- How an absolute path begins. Two slashes, unless there are more, are not the same as one. -/
def rootOf (path : String) : String :=
  match path.toList with
  | ['/', '/'] => "//"
  | '/' :: '/' :: c :: _ => if c = '/' then "/" else "//"
  | _ => "/"

/-- A directory by a path, as it is called from now on, and its place. -/
def directoryAt? (s : State) (physical : Bool) (path : String) : Option (String × Place) :=
  let isAbsolute := path.toList.head? = some '/'
  let whole := if isAbsolute then path else s.directory ++ "/" ++ path
  let named := rootOf (if isAbsolute then path else s.directory) ++
    "/".intercalate (settledNames (Path.mk whole).names)
  let asked := if physical then path else named
  match s.disk.reach (pathOf asked) with
  | .ok location =>
    if s.disk.isDirectory (pathOf asked) then
      some (if physical then placeText location.place else named, location.place)
    else none
  | .error _ => none

/-- The directory that is meant by a path, and whether a search has found it. -/
def directoryChoice (s : State) (path : String) : String × Bool :=
  let first := (Path.mk path).steps.head?
  if path.toList.head? = some '/' || first = some "." || first = some ".." then (path, false)
  else
    let path := if path = "" then "." else path
    match s.stored? "CDPATH" with
    | none => (path, false)
    | some search =>
      let choices := (Text.splitOn (· = ':') search.toList).map fun directory =>
        (candidate (String.ofList directory) path, !directory.isEmpty)
      (choices.find? fun (path, _) => s.disk.isDirectory (pathOf path)).getD (path, false)

def changeDirectory (s : State) (args : List String) : State :=
  s.withLetters "LP" args fun letters names =>
  let asked := (names.head?.or (s.stored? "HOME")).getD ""
  let target := if asked = "-" then (s.stored? "OLDPWD").getD "" else asked
  let (path, told) := s.directoryChoice target
  match directoryAt? s (letters.getLast? = some 'P') path with
  | none => (s.report ("can't cd to " ++ if target = "" then "." else target)).finish 2
  | some (name, place) =>
    let old := s.directory
    let s := { s with disk := { s.disk with workingDirectory := place }, directory := name }
    let s := ((s.assign "OLDPWD" old).export_ "OLDPWD" |>.assign "PWD" name).export_ "PWD"
    (if asked = "-" || told then s.say (name ++ "\n") else s).finish 0

def showDirectory (s : State) (args : List String) : State :=
  s.withLetters "LP" args fun letters _ =>
    let here := placeText s.disk.workingDirectory
    let name := if letters.getLast? = some 'P' then here else s.directory
    (s.say (name ++ "\n")).finish 0

/-! ### The mask of new files -/

/-- The permissions of one kind of user, as letters. -/
def permissionLetters (bits : Nat) : List Char :=
  (if bits / 4 % 2 = 1 then ['r'] else []) ++ (if bits / 2 % 2 = 1 then ['w'] else []) ++
    (if bits % 2 = 1 then ['x'] else [])

/-- What is granted after the clauses of a text; `old` was granted before all of them, and `places`
has a bit for each kind of user that the clause has named so far. -/
def grantedAfter? (old : Nat) : Nat → Nat → Nat → List Char → Option Nat
  | 0, _, granted, _ => some granted
  | fuel + 1, places, granted, cs =>
    let users := cs.takeWhile "augo".toList.contains
    let bit (c : Char) : Nat := match c with
      | 'a' => 0o111
      | 'u' => 0o100
      | 'g' => 0o010
      | _ => 0o001
    let named := users.foldl (fun places c => places ||| bit c) places
    let places := if named = 0 then 0o111 else named
    match cs.drop users.length with
    | [] => some granted
    | how :: rest =>
      let letters := rest.takeWhile "rwxugoXs".toList.contains
      let permission (c : Char) : Nat := match c with
        | 'r' => 4
        | 'w' => 2
        | 'x' => 1
        | 'u' => old / 64
        | 'g' => old / 8
        | 'o' => old
        | 'X' => if old &&& 0o111 = 0 then 0 else 1
        | _ => 0
      let meant := letters.foldl (fun all c => all ||| permission c % 8) 0 * places
      let without (bits : Nat) : Nat := granted - (granted &&& bits)
      let after? : Option Nat := match how with
        | '+' => some (granted ||| meant)
        | '-' => some (without meant)
        | '=' => some (without (7 * places) ||| meant)
        | _ => none
      match after?, rest.drop letters.length with
      | none, _ => none
      | some granted, [] => some granted
      | some granted, ',' :: rest => grantedAfter? old fuel 0 granted rest
      | some granted, c :: rest =>
        if "=+-".toList.contains c then grantedAfter? old fuel places granted (c :: rest) else none

/-- Tells or changes which permissions new files do not get. -/
def maskFiles (s : State) (args : List String) : State :=
  s.withLetters "S" args fun letters args =>
    let mask := s.disk.mask
    let set (mask : Nat) : State := { s with disk := { s.disk with mask := mask } }.finish 0
    match args with
    | [] =>
      let granted := 0o777 - mask
      if letters.contains 'S' then
        (s.say ("u=" ++ String.ofList (permissionLetters (granted / 64)) ++
          ",g=" ++ String.ofList (permissionLetters (granted / 8)) ++
          ",o=" ++ String.ofList (permissionLetters granted) ++ "\n")).finish 0
      else (s.say (String.ofList (Montage.Mode.octal 4 mask) ++ "\n")).finish 0
    | arg :: _ =>
      if arg.toList.head?.any Char.isDigit then
        if arg.toList.all isOctal then set (valueIn 8 arg.toList % 512)
        else s.abort ("Illegal number: " ++ arg)
      else match grantedAfter? (0o777 - mask) (arg.length + 1) 0 (0o777 - mask) arg.toList with
        | some granted => set (0o777 - granted % 512)
        | none => s.abort ("Illegal mode: " ++ arg)

/-! ### Other names for commands -/

def showAlias (name text : String) : String :=
  name ++ "=" ++ requoted text ++ "\n"

/-- A new name for a command, after those that are there. -/
def addAlias (s : State) (name text : String) : State :=
  { s with aliases :=
      if (s.aliases.lookup name).isSome then
        s.aliases.map fun (other, old) => (other, if other = name then text else old)
      else s.aliases ++ [(name, text)] }

def aliasAll (s : State) (args : List String) : State :=
  if args.isEmpty then
    (s.say (String.join (s.aliases.map fun (name, text) => showAlias name text))).finish 0
  else args.foldl (fun s arg =>
    match binding arg with
    | (name, some text) => addAlias s name text
    | (name, none) =>
      match s.aliases.lookup name with
      | some text => s.say (showAlias name text)
      | none => (s.complain ("alias: " ++ name ++ " not found")).finish 1) (s.finish 0)

def unaliasAll (s : State) (args : List String) : State :=
  s.withLetters "a" args fun letters names =>
    if letters.contains 'a' then { s with aliases := [] }.finish 0
    else names.foldl (fun s name =>
      if (s.aliases.lookup name).isSome then
        { s with aliases := s.aliases.filter (·.1 ≠ name) }
      else (s.complain ("unalias: " ++ name ++ " not found")).finish 1) (s.finish 0)

/-- Arguments written by a format. What is wrong with them is told first. -/
def printf (s : State) (args : List String) : State :=
  match args with
  | [] => (s.report "usage: printf format [arg ...]").finish 2
  | form :: args =>
    let (bytes, faults, status) := format form args
    ((faults.foldl State.report s).write 1 bytes).finish status

/-! ### Reading -/

def lineFeed : UInt8 := 10

/-- What is heard of a line: its bytes, and the places where it has been joined. -/
inductive Heard
  | byte (b : UInt8) (escaped : Bool)
  | seam

/-- The next line that is read. A backslash takes its meaning from the character after it, and joins
two lines, unless it has none. -/
def nextLine (raw : Bool) : Text.Bytes → List Heard × Text.Bytes × Bool
  | [] => ([], [], false)
  | b :: rest =>
    if b = lineFeed then ([], rest, true)
    else if b = 0 then nextLine raw rest
    else if b = 92 && !raw then
      match rest with
      | [] => ([], [], false)
      | c :: rest =>
        let (line, rest, ended) := nextLine raw rest
        (if c = lineFeed then .seam :: line else .byte c true :: line, rest, ended)
    else
      let (line, rest, ended) := nextLine raw rest
      (.byte b false :: line, rest, ended)

namespace Heard

def isEnd (separators : List UInt8) : Heard → Bool
  | byte b escaped => !escaped && separators.contains b
  | seam => false

/-- A separator of which many count as one. -/
def isBlank (separators : List UInt8) : Heard → Bool
  | byte b escaped => !escaped && separators.contains b && (b = 32 || b = 9 || b = lineFeed)
  | seam => false

def isSeam : Heard → Bool
  | seam => true
  | byte .. => false

def bytes : List Heard → Text.Bytes :=
  List.filterMap fun
    | byte b _ => some b
    | seam => none

end Heard

/-- The last field of a line: what is kept of it, and what may have to be left out, both with the
latest first. -/
structure LastField where
  kept : List Heard
  held : Option (List Heard)
  /-- A separator has been found. -/
  isEnded : Bool
  /-- One separator more does not count, if it is not a blank. -/
  isAfterBlank : Bool

/-- The last field goes on. Blanks at the end are left out, and so is one separator if nothing but
blanks stands around it; an escaped byte is left out with what it follows. -/
def LastField.extend (separators : List UInt8) (f : LastField) (h : Heard) : LastField :=
  let add : LastField := match f.held with
    | some held => { f with held := some (h :: held) }
    | none => { f with kept := h :: f.kept }
  match h with
  | .seam => { f with isAfterBlank := false }
  | .byte _ true => { add with isAfterBlank := false }
  | .byte _ false =>
    if !f.isEnded then
      if h.isEnd separators then
        { f with held := some [h], isEnded := true, isAfterBlank := h.isBlank separators }
      else add
    else if h.isBlank separators then { f with held := some (h :: f.held.getD []) }
    else if h.isEnd separators && f.isAfterBlank then { add with isAfterBlank := false }
    else { f with kept := h :: (f.held.getD [] ++ f.kept), held := none, isAfterBlank := false }

def lastField (separators : List UInt8) (line : List Heard) : Text.Bytes :=
  Heard.bytes (line.foldl (LastField.extend separators) ⟨[], none, false, false⟩).kept.reverse

/-- Cuts the fields of a line for some names. The last name gets all that is left. -/
def lineFields (separators : List UInt8) : Nat → List Heard → List Text.Bytes
  | 0, _ => []
  | names + 1, line =>
    let line := line.dropWhile fun h => h.isBlank separators || h.isSeam
    if names = 0 then [lastField separators line]
    else
      let field := line.takeWhile (!·.isEnd separators)
      let rest := (line.drop field.length).dropWhile (·.isBlank separators)
      let rest := if rest.head?.any (·.isEnd separators) then
          (rest.drop 1).dropWhile (·.isBlank separators)
        else rest
      Heard.bytes field :: lineFields separators names rest

/-- Reads a line into variables. -/
def readLine (s : State) (args : List String) : State :=
  match lettersOf "r" "p" args with
  | .error text => s.abort text
  | .ok (found, names) =>
    let (line, rest, ended) := nextLine (found.any (·.1 = 'r')) (s.waiting 0)
    if names.isEmpty then (s.report "arg count").finish 2
    else match names.find? fun name => !isName name || (s.known name).fixed with
      | some name =>
        let what := if isName name then ": is read only" else ": bad variable name"
        ((s.leaveWaiting 0 rest).report (name ++ what)).finish 2
      | none =>
        let fields := lineFields (pack s.separators) names.length line
        let s := s.leaveWaiting 0 rest
        let s := (names.zip fields).foldl (fun s (name, bytes) =>
          s.assign name (byteText bytes)) s
        s.finish (if ended then 0 else 1)

/-- What has not been looked at of the argument in which options are looked for. -/
def lettersLeft (s : State) (args : List String) : List Char :=
  match s.optionOffset with
  | none => []
  | some offset =>
    if s.optionIndex ≤ 1 then [] else (args[s.optionIndex - 2]?.getD "").toList.drop offset

/-- What follows an option in the text that tells which ones there are. A colon belongs to the
option before it. -/
def afterOption? (c : Char) : List Char → Option (List Char)
  | [] => none
  | d :: rest =>
    if d = c then some rest
    else match rest with
      | ':' :: rest => afterOption? c rest
      | rest => afterOption? c rest

/-- The next option among some arguments. -/
def nextOption (s : State) (form name : String) (args : List String) : State :=
  let s := if s.optionIndex ≤ args.length + 1 then s else s.seekOptions 1
  let current := s.lettersLeft args
  let (letters, index) := if !current.isEmpty then (current, s.optionIndex)
    else match (args[s.optionIndex - 1]?.getD "").toList with
      | '-' :: c :: letters => (c :: letters, s.optionIndex + 1)
      | _ => ([], s.optionIndex)
  let store (s : State) (index : Nat) (offset : Option Nat) (letter : Char)
      (status : Nat) : State :=
    let s := s.store "OPTIND" (Decimal.natural index)
    let s := if isName name then s.assign name (String.ofList [letter])
      else s.abort (name ++ ": bad variable name")
    if s.goesOn then { s with optionIndex := index, optionOffset := offset }.finish status else s
  match letters with
  | [] => store s index none '?' 1
  | c :: rest =>
    if current.isEmpty && letters = ['-'] then store s index none '?' 1
    else
      let read := (args[index - 2]?.getD "").length - rest.length
      let quiet := form.toList.head? = some ':'
      match afterOption? c form.toList with
      | none => unknown s quiet c fun s => store s index (some read) '?' 0
      | some after =>
        if after.head? ≠ some ':' then
          store (s.assign "OPTARG" "") index (some read) c 0
        else if !rest.isEmpty then store (s.assign "OPTARG" (String.ofList rest)) index none c 0
        else match args[index - 1]? with
          | some value => store (s.assign "OPTARG" value) (index + 1) none c 0
          | none =>
            if quiet then store (s.assign "OPTARG" (String.ofList [c])) index (some read) ':' 0
            else
              let s := s.complain ("No arg for -" ++ String.ofList [c] ++ " option")
              store (s.unassign "OPTARG") index (some read) '?' 0
where
  unknown (s : State) (quiet : Bool) (c : Char) (store : State → State) : State :=
    if quiet then store (s.assign "OPTARG" (String.ofList [c]))
    else store ((s.complain ("Illegal option -" ++ String.ofList [c])).unassign "OPTARG")

def getOptions (s : State) (args : List String) : State :=
  match args with
  | [form, name] => s.nextOption form name s.arguments
  | form :: name :: rest => s.nextOption form name rest
  | _ => (s.report "Usage: getopts optstring var [arg...]").finish 2

/-! ### Signals -/

def killUsage : String :=
  "Usage: kill [-s sigspec | -signum | -sigspec] [pid | job]... or\nkill -l [exitstatus]"

/-- Sends a signal to processes. One that is neither the script nor waits for it is over already. -/
def sendAll (s : State) (signal : Nat) (targets : List String) : State :=
  if targets.isEmpty then (s.report killUsage).finish 2
  else
    let step (s : State) (target : String) : Except State State :=
      if target.toList.head? = some '%' then
        .error ((s.report ("No such job: " ++ target)).finish 2)
      else
        -- After a dash comes the number of a group of processes, which there is not.
        let isGroup := target.toList.head? = some '-'
        let number := if isGroup then target.toList.drop 1 else target.toList
        match Numeral.natural? (pow2 31) number with
        | none => .error ((s.report ("Illegal number: " ++ String.ofList number)).finish 2)
        | some n =>
          let p := s.processes
          if !isGroup && (n = p.own || (p.waiting.contains n && n ≠ 1)) then
            if signal = 0 then .ok s
            else .ok { s with processes := { p with pending := p.pending ++ [(n, signal)] } }
          else .ok ((s.report "No such process\n").finish 1)
    (s.finish 0).inTurn step targets

/-- The names of signals. -/
def listSignals (s : State) (args : List String) : State :=
  match args with
  | [] =>
    let names := (List.range (Signal.limit - 1)).map fun n => Signal.name (n + 1)
    (s.say (String.join (("0" :: names).map (· ++ "\n")))).finish 0
  | arg :: _ =>
    match Numeral.natural? (pow2 31) arg.toList with
    | none => (s.report ("Illegal number: " ++ arg)).finish 2
    | some n =>
      let signal := if 128 < n then n - 128 else n
      if 0 < signal ∧ signal < Signal.limit then (s.say (Signal.name signal ++ "\n")).finish 0
      else (s.report ("invalid signal number or exit status: " ++ arg)).finish 2

def kill (s : State) (args : List String) : State :=
  let known? (text : String) : Option Nat :=
    (Signal.ofText? text).filter fun n => n ≠ 0 || text.toList.all Char.isDigit
  match args with
  | [] => s.abort killUsage
  | arg :: rest =>
    match arg.toList with
    | '-' :: name =>
      match known? (String.ofList name), lettersOf "l" "s" args with
      | some signal, _ => s.sendAll signal rest
      | none, .error text => s.abort text
      | none, .ok (found, targets) =>
        let names := (found.filter (·.1 = 's')).map (·.2)
        match names.find? fun name => (known? name).isNone with
        | some name => s.abort ("invalid signal number or name: " ++ name)
        | none =>
          let named := names.getLast?.bind known?
          if found.all (·.1 ≠ 'l') then s.sendAll (named.getD Signal.terminate) targets
          else if named.isSome && !targets.isEmpty then s.abort killUsage
          else s.listSignals targets
    | _ => s.sendAll Signal.terminate args

/-- Remembers what to do when a signal comes or the script ends. -/
def trap (s : State) (args : List String) : State :=
  s.withLetters "" args fun _ args =>
    let numbered (text : String) : Bool :=
      (Signal.ofText? text).isSome && text.toList.all Char.isDigit
    match args with
    | [] =>
      let set := s.traps.mergeSort fun a b => decide (a.1 ≤ b.1)
      (s.say (String.join (set.map fun (signal, action) =>
        "trap -- " ++ requoted action ++ " " ++ Signal.name signal ++ "\n"))).finish 0
    | first :: rest =>
      let (action, names) := if rest.isEmpty || numbered first then ("-", args) else (first, rest)
      (s.finish 0).inTurn (fun s name =>
        match Signal.ofText? name with
        | none => .error ((s.complain ("trap: " ++ name ++ ": bad trap")).finish 1)
        | some signal =>
          let others := s.traps.filter (·.1 ≠ signal)
          .ok { s with traps := if action = "-" then others else (signal, action) :: others })
        names

/-- How processes ended that ran beside the script. -/
def wait (s : State) (args : List String) : State :=
  s.withLetters "" args fun _ targets =>
    (s.finish 0).inTurn (fun s target =>
      if target.toList.head? = some '%' then
        .error ((s.report ("No such job: " ++ target)).finish 2)
      else match Numeral.natural? (pow2 31) target.toList with
        | none => .error ((s.report ("Illegal number: " ++ target)).finish 2)
        | some n => .ok (s.finish ((s.processes.ended.lookup n).getD 127))) targets

/-! ### Other scripts -/

/-- The file of a script that is to be run as a part of this one. -/
def sourcePath? (s : State) (name : String) : Option String :=
  if name.toList.contains '/' then some name
  else
    let isThere (directory : String) : Bool := s.disk.isFile (pathOf (candidate directory name))
    let found := s.searchPath.find? isThere
    found.map (candidate · name)

def source (run : Runner) (s : State) (args : List String) : State :=
  s.withLetters "" args fun _ args =>
  match args with
  | [] => s.finish 0
  | name :: _ =>
    match s.sourcePath? name with
    | none => s.abort (name ++ ": not found")
    | some path =>
      match Utility.content s path with
      | .error .isADirectory => s.finish 0
      | .error e => s.abort ("cannot open " ++ name ++ ": " ++ complaint "No such file" e)
      | .ok (s, bytes) =>
        let s := runScript run true 0 (scriptOf bytes) { s with command := path ++ ": " }
        if s.flow = .leaveFunction then { s with flow := .onward } else s

/-- How many functions may run inside each other. -/
def functionLimit : Nat :=
  1000

/-- Does something after which the variables that have been made its own are as before. -/
def keeping (body : State → State) (s : State) : State :=
  let inner := body { s with kept := some ⟨[], none⟩ }
  let ended := { inner with kept := s.kept }
  match inner.kept with
  | none => ended
  | some kept =>
    kept.bindings.foldl (fun s (name, old) => s.restore name old)
      { ended with options := kept.options.getD inner.options }

/-- A function with its arguments. -/
def callFunction (run : Runner) (body : Command) (args : List String) (s : State) : State :=
  if functionLimit ≤ s.functionDepth then
    s.abort ("Maximum function recursion depth (" ++ Decimal.natural functionLimit ++ ") reached")
  else
    let inner := keeping (run body)
      { s.seekOptions 1 with
        arguments := args
        loops := 0
        functionDepth := s.functionDepth + 1 }
    { inner with
      functionDepth := s.functionDepth
      arguments := s.arguments
      optionIndex := s.optionIndex
      optionOffset := s.optionOffset
      loops := s.loops
      flow := if inner.flow = .leaveFunction then .onward else inner.flow }

/-! ### What commands are -/

/-- The other commands that the shell itself carries out. -/
def builtinNames : List String :=
  ["alias", "bg", "cd", "command", "echo", "false", "fg", "getopts", "hash", "jobs", "kill",
    "printf", "pwd", "read", "test", "[", "true", "type", "ulimit", "umask", "unalias", "wait"]

/-- How the shell would carry out a command: its own name, or the path of a program. -/
def meaning? (s : State) (name : String) : Option String :=
  if keywords.contains name || specialNames.contains name || builtinNames.contains name ||
      (s.functions.lookup name).isSome then some name
  else if name.toList.contains '/' then if s.disk.isThere (pathOf name) then some name else none
  else s.programPath? name

/-- Tells what commands are. -/
def tell (s : State) (names : List String) : State :=
  names.foldl (fun s name =>
    match s.aliases.lookup name, s.meaning? name with
    | some text, _ => s.say (name ++ " is an alias for " ++ text ++ "\n")
    | none, none => (s.say (name ++ ": not found\n")).finish 127
    | none, some text =>
      let what := if keywords.contains name then "a shell keyword"
        else if (s.functions.lookup name).isSome then "a shell function"
        else if specialNames.contains name then "a special shell builtin"
        else if name.toList.contains '/' then text
        else if text = name then "a shell builtin"
        else if (s.remembered.lookup name).isSome then "a tracked alias for " ++ text
        else text
      (if text = name then s else s.remember name).say (name ++ " is " ++ what ++ "\n"))
    (s.finish 0)

/-- The place of a name in the order in which remembered programs are told. -/
def memoryPlace (name : String) : Nat :=
  let codes := (bytesOf name.toList).map UInt8.toNat
  (codes.headD 0 * 16 + codes.foldr (· + ·) 0) % 32768 % 31

/-- Tells what is remembered of programs, forgets all of it, or looks for programs once more. -/
def hashAll (s : State) (args : List String) : State :=
  s.withLetters "r" args fun letters names =>
    if !letters.isEmpty then { s with remembered := [] }.finish 0
    else if names.isEmpty then
      let found := s.remembered.mergeSort fun a b => decide (memoryPlace a.1 ≤ memoryPlace b.1)
      (s.say (String.join (found.map fun (_, path) => path ++ "\n"))).finish 0
    else names.foldl (fun s name =>
      if name.toList.contains '/' || s.meaning? name = some name then s
      else
        let s := { s with remembered := s.remembered.filter (·.1 ≠ name) }.remember name
        if (s.remembered.lookup name).isSome then s
        else (s.report (name ++ ": not found")).finish 1) (s.finish 0)

/-! ### Carrying out -/

/-- The program takes the place of the script. -/
def execute (run : Runner) (s : State) (args : List String) : State :=
  match args with
  | [] => s.finish 0
  | name :: args =>
    let done := launch run name args { s with traps := s.traps.filter (·.2 = "") }
    match done.processes.endedBy with
    | some signal => { done with flow := .killed signal }
    | none => if done.goesOn then done.leave done.status else done

/-- What is known of a command, where an option of `command` asks for that. -/
def describe (s : State) (args : List String) : State :=
  s.withLetters "pvV" args fun letters names =>
    match names with
    | [] => s.finish 0
    | name :: _ =>
      if letters.contains 'V' then s.tell [name]
      else if letters.contains 'v' then
        match s.aliases.lookup name, s.meaning? name with
        | some text, _ => (s.say ("alias " ++ showAlias name text)).finish 0
        | none, some text =>
          ((if text = name then s else s.remember name).say (text ++ "\n")).finish 0
        | none, none => s.finish 127
      else s.finish 0

/-- Commands that would go on beside the script; there are none. -/
def resume (s : State) (names : List String) : State :=
  match names with
  | [] => s.abort "No current job"
  | name :: _ => s.abort ("No such job: " ++ name)

/-- Limits of the system, which are taken and not kept. -/
def limit (s : State) (args : List String) : State :=
  s.withLetters "HSatfdscmlpnvwr" args fun _ values =>
    match values with
    | [] => (s.say "unlimited\n").finish 0
    | [value] =>
      if value = "unlimited" || value.toList.all Char.isDigit then s.finish 0
      else s.abort "bad number"
    | _ => s.abort "too many arguments"

/-- How long the shell and what it ran have worked, which is next to nothing. -/
def noTimes : String :=
  let line := "0m0.000000s 0m0.000000s\n"
  line ++ line

/-- A command that changes the shell itself. -/
def builtin? (run : Runner) (name : String) (args : List String) (s : State) : Option State :=
  match name with
  | ":" | "true" => some (s.finish 0)
  | "times" => some ((s.say noTimes).finish 0)
  | "false" => some (s.finish 1)
  | "ulimit" => some (s.limit args)
  | "command" => some (s.describe args)
  | "." => some (source run s args)
  | "break" => some (s.leaveLoops .leaveLoops args)
  | "continue" => some (s.leaveLoops .nextRound args)
  | "eval" => some (runScript run false 0 (" ".intercalate args).toList s)
  | "exec" => some (s.execute run args)
  | "exit" => some (s.exit args)
  | "type" => some (s.tell args)
  | "export" => some (s.exportAll args)
  | "readonly" => some (s.fixAll args)
  | "local" => some (s.localAll args)
  | "return" => some (s.return_ args)
  | "set" => some (s.setOptions args)
  | "shift" => some (s.shift args)
  | "trap" => some (s.trap args)
  | "unset" => some (s.unsetAll args)
  | "cd" => some (s.changeDirectory args)
  | "read" => some (s.readLine args)
  | "getopts" => some (s.getOptions args)
  | "kill" => some (s.kill args)
  | "wait" => some (s.wait args)
  | "hash" => some (s.hashAll args)
  | "jobs" => some (s.withLetters "lp" args fun _ names =>
      if names.isEmpty then s.finish 0 else s.resume names)
  | "fg" | "bg" => some (s.withLetters "" args fun _ names => s.resume names)
  | "umask" => some (s.maskFiles args)
  | "alias" => some (s.aliasAll args)
  | "unalias" => some (s.unaliasAll args)
  | "echo" => some ((s.write 1 (echo args)).finish 0)
  | "printf" => some (s.withLetters "" args fun _ args => s.printf args)
  | "test" => some (s.test State.report args)
  | "[" => some (s.bracket State.report args)
  | "pwd" => some (s.showDirectory args)
  | _ => none

/-- The commands of the shell that complain when they could not write. -/
def endedWriting : List String :=
  ["echo", "printf", "pwd", "set", "export", "readonly", "alias", "umask", "type", "trap", "kill",
    "command", "test", "[", "cd"]

/-- A command of the shell or a program. A mistake of a command that is not special, or that is to
be treated like the others, does not end the script. -/
def carryOut (run : Runner) (isSpecial : Bool) (name : String) (args : List String) (s : State) :
    State :=
  match builtin? run name args { s with command := name ++ ": ", refused := none } with
  | some done =>
    let done := if done.flow = .broken && !isSpecial then { done with flow := .onward } else done
    let done := if done.refused.isSome && done.goesOn && endedWriting.contains name then
        ({ done with command := name ++ ": " }.report (name ++ ": I/O error")).finish 1
      else done
    { done with command := s.command, refused := none }
  | none => call run name args s

/-- The command that `command` leads to, which may be `command` again, given options that change
nothing; `latest` is the command whose options are looked at. -/
def afterCommand (isLiteral : Bool) (latest : List String) : List String → List String
  | [] => latest
  | arg :: rest =>
    if arg = "command" then afterCommand false (arg :: rest) rest
    else if isLiteral then arg :: rest
    else match arg.toList with
      | ['-', '-'] => afterCommand true latest rest
      | '-' :: c :: letters =>
        if (c :: letters).all (· = 'p') then afterCommand false latest rest else latest
      | _ => arg :: rest

/-- The command that is meant by some words. -/
def commanded (words : List String) : List String :=
  match words with
  | "command" :: args => afterCommand false words args
  | _ => words

/-- Any command by its name: a function, a command of the shell, or a program. A command that is led
to by `command` is not looked for among the functions. -/
def invoke (run : Runner) (name : String) (args : List String) (s : State) : State :=
  match s.functions.lookup name, commanded (name :: args) with
  | some body, _ => callFunction run body args s
  | none, inner :: args =>
    if name = "command" then keeping (carryOut run false inner args) s
    else carryOut run (specialNames.contains name) inner args s
  | none, [] => s

end Montage.Shell.State
