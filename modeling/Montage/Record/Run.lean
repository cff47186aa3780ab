import Montage.Record.Function

/-!
Running a program: the values of its expressions, its statements, and its rules for each record.
-/

namespace Montage.Record

open Shell

/-- How the parts of what is run are run. -/
structure Steps where
  eval : Expr → Act Value
  exec : Statement → Act Unit

/-- What does not change while a program runs. -/
structure Scope where
  start : Starter
  program : Program

variable (scope : Scope) (steps : Steps)

/-! ### Places -/

/-- The name of an entry that several values name together. -/
def keyOf (keys : List Expr) : Act (List Char) := do
  let parts ← keys.mapM fun e => do charsOf (← steps.eval e)
  pure (((← get).knownText "SUBSEP").intercalate parts)

/-- A place whose parts have been found out, so that it can be read and written. -/
inductive Spot
  | named (name : String)
  | field (number : Nat)
  | entry (table : Nat) (key : List Char)

def spotOf (place : Place) : Act Spot := do
  match place with
  | .named name => pure (.named name)
  | .field e => pure (.field (← fieldNumber (← steps.eval e)))
  | .entry table keys => do
    let key ← keyOf steps keys
    pure (.entry (← tableOf table) key)

def Spot.get : Spot → Act Value
  | named name => getNamed name
  | field n => Record.field n
  | entry table key => getEntry table key

def Spot.set (v : Value) : Spot → Act Unit
  | named name => setNamed name v
  | field n => setField n v
  | entry table key => setEntry table key v

/-! ### Expressions -/

/-- The expression that is looked for. -/
def patternOf (e : Expr) : Act Regex := do
  match e with
  | .look r => pure r
  | e => do
    let cs ← charsOf (← steps.eval e)
    ofPattern cs (Regex.read patternForm cs)

/-- What an argument is for a function: a value, or a table that both share. A variable that has
never been used may become a table. -/
def argumentOf (e : Expr) : Act Cell := do
  match e with
  | .get (.named name) => do
    match (← get).cell? name with
    | some (.table n) => pure (.table n)
    | some (.value .unset) => do pure (.table (← tableOf name))
    | none =>
      if name = fieldCountName then pure (.value (← getNamed name))
      else pure (.table (← tableOf name))
    | some (.value v) => pure (.value v)
  | e => do pure (.value (← steps.eval e))

/-- Runs a function of the program with its arguments. -/
def callFunction (f : Function) (args : List Cell) : Act Value := do
  let before := (← get).locals
  let given := args ++ List.replicate (f.parameters.length - args.length) (.value .unset)
  modify fun j => { j with locals := f.parameters.zip given }
  let result ← tryCatch (do
    steps.exec f.body
    pure Value.unset) fun stop =>
      match stop with
      | .give v => pure v
      | stop => throw stop
  modify fun j => { j with locals := before }
  pure result

/-- The value of a function that looks at names or expressions rather than at values. -/
def nativeCall (f : Native) (args : List Expr) : Act Value := do
  match f, args with
  | .length, [.get (.named name)] =>
    match (← get).cell? name with
    | some (.table n) => do pure (.ofNat (← entries n).length)
    | _ => apply scope.start .length [← getNamed name]
  | .split, text :: .get (.named name) :: more => do
    let cs ← charsOf (← steps.eval text)
    let separator ← match more with
      | [.look r] => pure (.any r)
      | e :: _ => do
        let mark ← charsOf (← steps.eval e)
        ofPattern mark (Separator.ofText mark)
      | [] => fieldSeparator
    let parts := separator.split cs
    let table ← tableOf name
    setEntries table (parts.zipIdx.map fun (part, i) =>
      (Decimal.digits (i + 1), Value.entry part)).reverse
    pure (.ofNat parts.length)
  | .sub, pattern :: new :: more | .gsub, pattern :: new :: more => do
    let r ← patternOf steps pattern
    let new ← charsOf (← steps.eval new)
    let spot ← match more with
      | .get place :: _ => do pure (some (← spotOf steps place))
      | e :: _ => do
        discard (steps.eval e)
        pure none
      | [] => pure (some (.field 0))
    match spot with
    | none => pure (.ofNat 0)
    | some spot => do
      let cs ← charsOf (← spot.get)
      let (text, count) := replace r cs new (f = .gsub)
      if 0 < count then spot.set (.text text)
      pure (.ofNat count)
  | .position, [text, pattern] => do
    let cs ← charsOf (← steps.eval text)
    let r ← patternOf steps pattern
    let (first, length) := match r.find? plainLook cs 0 with
      | some m => ((m.start + 1 : Nat), ((m.stop - m.start : Nat) : Int))
      | none => (0, -1)
    setNamed "RSTART" (.ofNat first)
    setNamed "RLENGTH" (.ofInt length)
    pure (.ofNat first)
  | f, args => do apply scope.start f (← args.mapM steps.eval)

/-- What has been read, put into a place; without one it is the record. -/
def store (place : Option Place) (cs : List Char) : Act Unit := do
  match place with
  | some place => do (← spotOf steps place).set (.entry cs)
  | none => setRecord cs

/-- A record of a file or of a command; the value tells whether there was one. -/
def readFrom (name : List Char) (isCommand : Bool) (place : Option Place) : Act Value := do
  match ← feed? scope.start name isCommand with
  | none => pure (.ofInt (-1))
  | some feed => do
    match ← readFeed feed with
    | none => pure (.ofNat 0)
    | some cs => do
      store steps place cs
      pure (.ofNat 1)

/-- The value of an expression. -/
def evalWith (e : Expr) : Act Value := do
  match e with
  | .number x => pure (.number x)
  | .text cs => pure (.text cs)
  | .look r => do pure (.ofBool (r.occurs plainLook (← get).record))
  | .get place => do (← spotOf steps place).get
  | .isIn keys table => do
    let key ← keyOf steps keys
    pure (.ofBool ((← entries (← tableOf table)).lookup key).isSome)
  | .negate e => do pure (.number (← steps.eval e).real.negate)
  | .plus e => do pure (.number (← steps.eval e).real)
  | .no e => do pure (.ofBool !(← steps.eval e).isTrue)
  | .arithmetic op a b => do
    let x ← steps.eval a
    let y ← steps.eval b
    pure (.number (op.apply x.real y.real))
  | .join a b => do
    let first ← charsOf (← steps.eval a)
    let second ← charsOf (← steps.eval b)
    pure (.text (first ++ second))
  | .compare op a b => do
    let x ← steps.eval a
    let y ← steps.eval b
    pure (.ofBool (op.holds (← get).textForm x y))
  | .fits found e pattern => do
    let cs ← charsOf (← steps.eval e)
    let r ← patternOf steps pattern
    pure (.ofBool (r.occurs plainLook cs = found))
  | .both a b => do
    if (← steps.eval a).isTrue then pure (.ofBool (← steps.eval b).isTrue) else pure (.ofBool false)
  | .either a b => do
    if (← steps.eval a).isTrue then pure (.ofBool true) else pure (.ofBool (← steps.eval b).isTrue)
  | .choose test yes no => do
    if (← steps.eval test).isTrue then steps.eval yes else steps.eval no
  | .assign place op value => do
    match op with
    | none => do
      let v ← steps.eval value
      (← spotOf steps place).set v
      pure v
    | some op => do
      let spot ← spotOf steps place
      let y ← steps.eval value
      let v := Value.number (op.apply (← spot.get).real y.real)
      spot.set v
      pure v
  | .step place up after => do
    let spot ← spotOf steps place
    let x := (← spot.get).real
    let y := if up then x.add (.ofNat 1) else x.sub (.ofNat 1)
    spot.set (.number y)
    pure (.number (if after then x else y))
  | .call name args => do
    match scope.program.functions.find? (·.name = name) with
    | none => pure .unset
    | some f => do callFunction steps f (← args.mapM (argumentOf steps))
  | .native f args => nativeCall scope steps f args
  | .readNext place => do
    match ← nextRecord fileLimit with
    | none => pure (.ofNat 0)
    | some cs => do
      store steps place cs
      pure (.ofNat 1)
  | .readFile name place => do
    let path ← charsOf (← steps.eval name)
    readFrom scope steps path false place
  | .readCommand command place => do
    let text ← charsOf (← steps.eval command)
    readFrom scope steps text true place

/-! ### Statements -/

/-- A value as it is printed: numbers that are not whole have a format for that. -/
def printedChars (v : Value) : Act (List Char) := do
  match v with
  | .number x => pure (textOf ((← get).knownText "OFMT") x)
  | v => charsOf v

/-- Writes a text where a statement says. -/
def write (target : Target) (cs : List Char) : Act Unit := do
  match target with
  | .output => say cs
  | .file name append => do sayTo (← charsOf (← steps.eval name)) false append cs
  | .command text => do sayTo (← charsOf (← steps.eval text)) true false cs

def printFields (args : List Expr) (target : Target) : Act Unit := do
  let values ← args.mapM steps.eval
  let texts ← if args.isEmpty then do pure [(← get).record] else values.mapM printedChars
  let j ← get
  write steps target ((j.knownText "OFS").intercalate texts ++ j.knownText "ORS")

def printFormat (args : List Expr) (target : Target) : Act Unit := do
  let values ← args.mapM steps.eval
  let j ← get
  let form := j.chars (values.headD .unset)
  let (text, fault) := format j.textForm form (values.drop 1)
  write steps target text
  match fault with
  | some fault => crash (fault.message "printf" form)
  | none => pure ()

/-- The most rounds of one loop. -/
def roundLimit : Nat :=
  10000000

/-- One round of a loop: whether it goes on. -/
def goesOn (body : Act Unit) : Act Bool :=
  tryCatch (do
    body
    pure true) fun stop =>
      match stop with
      | .nextRound => pure true
      | .leaveLoop => pure false
      | stop => throw stop

/-- The rounds of a loop; the test comes before each of them. -/
def rounds (test : Act Bool) (step body : Act Unit) : Nat → Act Unit
  | 0 => pure ()
  | fuel + 1 => do
    if ← test then
      if ← goesOn body then
        step
        rounds test step body fuel

/-- The rounds of a loop for some names, as long as it goes on. -/
def eachRound (body : List Char → Act Unit) : List (List Char) → Act Unit
  | [] => pure ()
  | key :: rest => do
    if ← goesOn (body key) then eachRound body rest

def execWith (s : Statement) : Act Unit := do
  match s with
  | .expr e => discard (steps.eval e)
  | .print args target => printFields steps args target
  | .format args target => printFormat steps args target
  | .block body => body.forM steps.exec
  | .choice test yes no => do
    if (← steps.eval test).isTrue then steps.exec yes else steps.exec no
  | .loop first test step body => do
    let holds : Act Bool := match test with
      | some e => do pure (← steps.eval e).isTrue
      | none => pure true
    let more := rounds holds (steps.exec step) (steps.exec body) roundLimit
    if first then
      if ← goesOn (steps.exec body) then more
    else more
  | .each name table body => do
    let keys := keysOf (← entries (← tableOf table))
    eachRound (fun key => do
      setNamed name (.text key)
      steps.exec body) keys
  | .delete table keys => do
    let n ← tableOf table
    match keys with
    | some keys => do removeEntry n (← keyOf steps keys)
    | none => setEntries n []
  | .leaveLoop => throw .leaveLoop
  | .nextRound => throw .nextRound
  | .nextRecord => throw .nextRecord
  | .nextFile => throw .nextFile
  | .leave status => do
    match status with
    | some e => do
      let n := wholePart (← steps.eval e).real
      modify fun j => { j with status := (n % 256).toNat }
    | none => pure ()
    throw .leave
  | .give value => do
    match value with
    | some e => do throw (.give (← steps.eval e))
    | none => throw (.give .unset)

mutual

/-- The value of an expression that is not too deep. -/
def eval (scope : Scope) (fuel : Nat) (e : Expr) : Act Value :=
  match fuel with
  | 0 => throw .abort
  | fuel + 1 => evalWith scope ⟨eval scope fuel, exec scope fuel⟩ e

def exec (scope : Scope) (fuel : Nat) (s : Statement) : Act Unit :=
  match fuel with
  | 0 => throw .abort
  | fuel + 1 => execWith ⟨eval scope fuel, exec scope fuel⟩ s

end

/-- How deep what is run may be. -/
def depthLimit : Nat :=
  30000

def allSteps (scope : Scope) : Steps :=
  ⟨eval scope depthLimit, exec scope depthLimit⟩

/-! ### Rules -/

/-- Whether a rule is for the record at hand. -/
def selects (rule : Rule) (number : Nat) : Act Bool := do
  match rule.pattern with
  | .first | .last => pure false
  | .every => pure true
  | .test e => do pure (← steps.eval e).isTrue
  | .range start stop => do
    let begun ← if (← get).ranges.contains number then pure true
      else do pure (← steps.eval start).isTrue
    if begun then
      let ended := (← steps.eval stop).isTrue
      modify fun j =>
        let others := j.ranges.filter (· ≠ number)
        { j with ranges := if ended then others else number :: others }
    pure begun

/-- The rules for one record. -/
def applyRules : List (Rule × Nat) → Act Unit
  | [] => pure ()
  | (rule, number) :: rest => do
    if ← selects steps rule number then steps.exec rule.action
    applyRules rest

/-- The rules for all records. -/
def eachRecord (rules : List (Rule × Nat)) : Nat → Act Unit
  | 0 => pure ()
  | fuel + 1 => do
    match ← nextRecord fileLimit with
    | none => pure ()
    | some cs => do
      setRecord cs
      tryCatch (applyRules steps rules) fun stop =>
        match stop with
        | .nextRecord => pure ()
        | .nextFile => modify fun j => { j with input := none }
        | stop => throw stop
      eachRecord rules fuel

/-- What is done at one end of a program. -/
def atEnd (p : Program) (isIt : Pattern → Bool) : Act Unit :=
  (p.rules.filter fun rule => isIt rule.pattern).forM fun rule => steps.exec rule.action

def isFirst : Pattern → Bool
  | .first => true
  | _ => false

def isLast : Pattern → Bool
  | .last => true
  | _ => false

/-- A part of a program, after which the next one comes unless all is over. -/
def part (body : Act Unit) : Act Bool :=
  tryCatch (do
    body
    pure true) fun stop =>
      match stop with
      | .abort => throw .abort
      | _ => pure false

/-- The whole program: what comes first, the records, and what comes last. -/
def runProgram : Act Unit := do
  let p := scope.program
  let steps := allSteps scope
  let body : Act Unit := do
    atEnd steps p isFirst
    if p.reads then eachRecord steps p.rules.zipIdx roundLimit
  discard (part body)
  -- Leaving the program early does not leave out its end.
  discard (part (atEnd steps p isLast))

end Montage.Record
