import Montage.Shell.Builtin

/-!
Running commands.
-/

namespace Montage.Shell

namespace State

/-- A failure ends the script where the script asks for that. -/
def checked (s : State) : State :=
  if s.status ≠ 0 && s.options.exitOnError && !s.asking && s.goesOn then s.leave s.status else s

/-- Runs something whose failure is an answer. -/
def asked (body : State → State) (s : State) : State :=
  { body { s with asking := true } with asking := s.asking }

/-! ### Simple commands -/

/-- Makes assignments one after another. Says how they read with their values. -/
def assignWords (run : Runner) (assigned : List (String × Word)) (s : State) :
    State × List String :=
  assigned.foldl (fun (s, texts) (name, word) =>
    let (s, value) := assignedOf (capture run) word s
    (if s.goesOn then s.assign name value else s, texts ++ [name ++ "=" ++ value])) (s, [])

/-- The text in front of commands that are shown, with its values. What is run to find them is not
shown. -/
def tracePrompt (run : Runner) (s : State) : State × String :=
  let text := (s.stored? "PS4").getD ""
  match readText (.start [] s.documents.length text.toList) with
  | .ok word =>
    let (found, text) :=
      textOf (capture run) word { s with options := { s.options with trace := false } }
    ({ found with options := s.options }, text)
  | .error _ => (s, text)

/-- Shows a command, where the script asks for that, to the stream for complaints as it was before
the command led it elsewhere. -/
def traced (run : Runner) (before : State) (fields : List String) (s : State) : State :=
  if s.options.trace && s.goesOn then
    let (s, prompt) := tracePrompt run s
    let shown := { s with streams := before.streams }.complain (prompt ++ " ".intercalate fields)
    { shown with streams := s.streams }
  else s

/-- A command with assignments in front of it, which are undone after it unless it is special. -/
def invokeWith (run : Runner) (before : State) (assigned : List (String × Word)) (name : String)
    (args : List String) (s : State) : State :=
  let old := assigned.map fun (name, _) => (name, s.bindings.lookup name)
  let (inner, texts) := assignWords run assigned s
  let inner := traced run before (texts ++ name :: args) inner
  if !inner.goesOn then inner
  else if specialNames.contains name || assigned.isEmpty then invoke run name args inner
  else
    let handed := assigned.foldl (fun s (name, _) => s.export_ name) inner
    old.foldl (fun s (name, old) => s.restore name old) (invoke run name args handed)

/-- The commands whose arguments can be assignments, which are not split. -/
def declaringNames : List String :=
  ["export", "readonly", "local", "alias"]

/-- The words of a command, in which a declaring command has its assignments left whole. -/
def expandCommand (run : Runner) (words : List Word) (s : State) : State × List String :=
  words.foldl (fun (s, fields) word =>
    let declares := (commanded fields).head?.any declaringNames.contains
    match if declares then assignment? word else none with
    | some (name, value) =>
      let (s, value) := assignedOf (capture run) value s
      (s, fields ++ [name ++ "=" ++ value])
    | none =>
      let (s, more) := expand (capture run) word s
      (s, fields ++ more)) (s, [])

/-- A simple command: its words, its redirections, its assignments, and then the command. -/
def simple (run : Runner) (line : Nat) (assigned : List (String × Word)) (words : List Word)
    (redirects : Redirects) (s : State) : State :=
  let (s, fields) := expandCommand run words { s with line := line, answered := none }
  if !s.goesOn then s
  else match fields with
    | [] =>
      s.redirected run true redirects (fun inner =>
        let (inner, texts) := assignWords run assigned inner
        let inner := traced run s texts inner
        if inner.goesOn then inner.finish (inner.answered.getD 0) else inner) id
    | name :: args =>
      let failed (s : State) : State := if specialNames.contains name then s.break_ else s
      let body := invokeWith run s assigned name args
      -- Without a command, `exec` leaves the streams as it has led them.
      if commanded fields = ["exec"] then
        match leadStreams run true redirects s with
        | .ok inner => if inner.goesOn then body inner else inner
        | .error inner => failed { inner.finish 2 with streams := s.streams }
      else s.redirected run true redirects body failed

/-- A command beside the script. It is over before the script goes on. -/
def inBackground (run : Runner) (inner : Command) (s : State) : State :=
  let done := s.inProcess run fun s => run inner (s.setStream 0 .nowhere)
  let p := done.processes
  let ended := (p.next, done.status) :: p.ended
  { done with processes := { p with next := p.next + 1, ended := ended }, status := 0 }

/-! ### Loops -/

/-- Whether a loop goes on after what has been done in it, and with which state. -/
def nextRound (s : State) : Bool × State :=
  match s.flow with
  | .onward => (true, s)
  | .leaveLoops n => (false, { s with flow := if n ≤ 1 then .onward else .leaveLoops (n - 1) })
  | .nextRound n =>
    if n ≤ 1 then (true, { s with flow := .onward })
    else (false, { s with flow := .nextRound (n - 1) })
  | _ => (false, s)

/-- The rounds of a loop that runs through values. A loop without any succeeds. -/
def forRounds (body : State → State) (name : String) : List String → State → State
  | [], s => s.finish 0
  | [value], s => (nextRound (body (s.assign name value))).2
  | value :: rest, s =>
    match nextRound (body (s.assign name value)) with
    | (true, s) => forRounds body name rest s
    | (false, s) => s

/-- How many pieces a command may write to the one that reads from it. -/
def pieceLimit : Nat :=
  20000

/-- Whether a command has written so much for another one that it would have been stopped. -/
def isDone (s : State) (rounds : Nat) : Bool :=
  rounds % 1024 = 0 &&
    match s.stream? 1 with
    | some (.pipe n) => errorPipe < n && pieceLimit < (s.pipes[n]?.getD []).length
    | _ => false

/-- The rounds of a loop with a condition; `status` is that of the round before. -/
def whileRounds (whileTrue : Bool) (condition body : State → State) : Nat → Nat → State → State
  | 0, _, s => s.abort "too many rounds"
  | rounds + 1, status, s =>
    match nextRound (asked condition s) with
    | (false, s) => s
    | (true, s) =>
      if decide (s.status = 0) ≠ whileTrue then s.finish status
      else match nextRound (body s) with
        | (true, s) =>
          if isDone s rounds then { s with flow := .killed Signal.brokenPipe }
          else whileRounds whileTrue condition body rounds s.status s
        | (false, s) => s

def inLoop (body : State → State) (s : State) : State :=
  { body { s with loops := s.loops + 1 } with loops := s.loops }

/-- How many rounds a loop may have. -/
def roundLimit : Nat :=
  1000000

/-! ### Other compound commands -/

/-- Before one of several commands begins, the shell looks for the program that it is. -/
def anticipated (s : State) : Command → State
  | .simple _ _ (word :: _) _ =>
    match plain? word with
    | some name => if isName name && s.meaning? name ≠ some name then s.remember name else s
    | none => s
  | _ => s

/-- Commands that each read what the one before has written. They begin together, so that none knows
how another one ended. -/
def runPipeline (run : Runner) : List Command → State → State
  | [], s => s
  | [last], s => (anticipated s last).inProcess run (run last)
  | c :: rest, s =>
    let (done, bytes) := (anticipated s c).captured run (run c)
    if done.goesOn then runPipeline run rest ({ done with status := s.status }.feed 0 bytes)
    else done

/-- The first branch with a pattern that fits. Without one, or where it is empty, all is well. -/
def runBranches (run : Runner) (subject : List Char) :
    List (List Word × List Command) → State → State
  | [], s => s.finish 0
  | (found, body) :: rest, s =>
    let (s, fits) := found.foldl (fun (s, fits) word =>
      if fits || !s.goesOn then (s, fits)
      else
        let (s, parts) := partsOf (capture run) false word s
        (s, (patternOf ((withHome s false parts).flatMap Part.marked)).fits subject)) (s, false)
    if !s.goesOn then s
    else if fits then if body.isEmpty then s.finish 0 else runAll run body s
    else runBranches run subject rest s

end State

open State in
/-- One command, the commands inside it run by `run`. -/
def runWith (run : Runner) (c : Command) (s : State) : State :=
  if s.options.readOnly then s
  else match c with
  | .simple line assigned words redirects =>
    ((s.simple run line assigned words redirects).deliver run).checked
  | .pipeline stages =>
    ({ runPipeline run stages s with streams := s.streams }.deliver run).checked
  | .both first second =>
    let s := asked (run first) s
    if s.goesOn && s.status = 0 then run second s else s
  | .either first second =>
    let s := asked (run first) s
    if s.goesOn && s.status ≠ 0 then run second s else s
  | .negate inner =>
    let s := asked (run inner) s
    if s.goesOn then s.finish (if s.status = 0 then 1 else 0) else s
  | .background inner => (s.inBackground run inner).deliver run
  | .group body => runAll run body s
  | .subshell line body redirects =>
    let inner (s : State) : State := s.inProcess run (runAll run body)
    (({ s with line := line }.redirected run false redirects inner id).deliver run).checked
  | .forEach line name items body =>
    let s := { s with line := line }
    let (s, values) := match items with
      | none => (s, s.arguments)
      | some words => expandAll (capture run) words s
    if s.goesOn then inLoop (forRounds (runAll run body) name values) s else s
  | .choose line subject found =>
    let (s, text) := wholeOf (capture run) subject { s with line := line }
    if s.goesOn then runBranches run text.toList found s else s
  | .branch condition onTrue onFalse =>
    let s := asked (runAll run condition) s
    if !s.goesOn then s
    else if s.status = 0 then runAll run onTrue s
    else if onFalse.isEmpty then s.finish 0
    else runAll run onFalse s
  | .repeat_ whileTrue condition body =>
    inLoop (whileRounds whileTrue (runAll run condition) (runAll run body) roundLimit 0) s
  | .define name body =>
    { s with functions := (name, body) :: s.functions.filter (·.1 ≠ name), status := 0 }
  | .redirected line inner redirects =>
    { s with line := line }.redirected run true redirects (run inner) checked

/-- Commands nested no deeper than `depth`. -/
def runNested : Nat → Runner
  | 0, _, s => { s with flow := .killed Signal.segmentation }
  | depth + 1, c, s => runWith (runNested depth) c s

/-- How deep commands may be nested. -/
def nestingLimit : Nat :=
  100000

def run : Runner :=
  runNested nestingLimit

end Montage.Shell
