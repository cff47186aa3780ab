import Montage.Record.Expression

/-!
Reading a program: statements, rules and functions.
-/

namespace Montage.Record

open Parse

/-- Where a statement stands. -/
structure Setting where
  inLoop : Bool
  inFunction : Bool
  /-- There is a record that can be left. -/
  atRecord : Bool

/-- The tokens after the parenthesis that closes the one before them. -/
def afterClosing : Nat → List Token → List Token
  | _, [] => []
  | inner, t :: rest =>
    if t.isMark "(" then afterClosing (inner + 1) rest
    else if t.isMark ")" then
      match inner with
      | 0 => rest
      | n + 1 => afterClosing n rest
    else afterClosing inner rest

/-- Whether something that is printed ends before a token. -/
def endsPrinted (t : Token) : Bool :=
  t.isNewline || [";", "\x7d", ">", ">>", "|"].any t.isMark

/-- Expressions in which a greater sign leads elsewhere. -/
def printedExpressions (fuel : Nat) : Parse (List Expr) :=
  match fuel with
  | 0 => refuse
  | fuel + 1 => do
    let first ← expression fuel false
    if ← accept "," then
      skipNewlines
      pure (first :: (← printedExpressions fuel))
    else pure [first]

/-- What is printed. Parentheses around all of it do not count. -/
def printed (fuel : Nat) : Parse (List Expr) := do
  let t ← peek
  let whole := t.isMark "(" && (afterClosing 0 ((← get).drop 1)).head?.any endsPrinted
  if endsPrinted t then pure []
  else if whole then
    drop
    let es ← if ← isNext ")" then pure [] else expressions fuel
    expect ")"
    pure es
  else printedExpressions fuel

/-- Where something is printed. -/
def target (fuel : Nat) : Parse Target := do
  if ← accept ">" then pure (.file (← expression fuel false) false)
  else if ← accept ">>" then pure (.file (← expression fuel false) true)
  else if ← accept "|" then pure (.command (← expression fuel false))
  else pure .output

/-- An expression in parentheses. -/
def condition (fuel : Nat) : Parse Expr := do
  expect "("
  let e ← expression fuel true
  expect ")"
  skipNewlines
  pure e

/-- An expression, if the statement does not end here. -/
def expression? (fuel : Nat) : Parse (Option Expr) := do
  let t ← peek
  if t.isNewline || t.isMark ";" || t.isMark "\x7d" || t.isMark ")" then pure none
  else pure (some (← expression fuel true))

def orNothing (e : Option Expr) : Statement :=
  match e with
  | some e => .expr e
  | none => .block []

/-- The names of a loop through a table, after the parenthesis. -/
def eachNames? (ts : List Token) : Option (String × String) :=
  match ts with
  | ⟨.name key, _, _, _⟩ :: inside :: ⟨.name table, _, _, _⟩ :: closing :: _ =>
    if inside.isMark "in" && closing.isMark ")" then some (key, table) else none
  | _ => none

/-- A statement of one line, without what ends it. -/
def simple (fuel : Nat) (setting : Setting) : Parse Statement := do
  let t ← peek
  match t.kind with
  | .mark "print" => do
    drop
    let es ← printed fuel
    pure (.print es (← target fuel))
  | .mark "printf" => do
    drop
    let es ← printed fuel
    if es.isEmpty then complain .noArguments else pure (.format es (← target fuel))
  | .mark "delete" => do
    drop
    let table ← name
    if ← accept "[" then
      let keys ← expressions fuel
      expect "]"
      pure (.delete table (some keys))
    else pure (.delete table none)
  | .mark "break" => leaving .leaveLoop setting.inLoop (.outsideLoop "break")
  | .mark "continue" => leaving .nextRound setting.inLoop (.outsideLoop "continue")
  | .mark "next" => leaving .nextRecord setting.atRecord (.misused "next")
  | .mark "nextfile" => leaving .nextFile setting.atRecord (.misused "nextfile")
  | .mark "exit" => do
    drop
    pure (.leave (← expression? fuel))
  | .mark "return" =>
    if setting.inFunction then do
      drop
      pure (.give (← expression? fuel))
    else complain .outsideFunction
  | _ => pure (.expr (← expression fuel true))
where
  leaving (s : Statement) (allowed : Bool) (fault : Fault) : Parse Statement := do
    if allowed then
      drop
      pure s
    else complain fault

mutual

def statement (fuel : Nat) (setting : Setting) : Parse Statement :=
  match fuel with
  | 0 => refuse
  | fuel + 1 => do
    let inside := { setting with inLoop := true }
    let t ← peek
    match t.kind with
    | .mark "\x7b" => block fuel setting
    | .mark ";" => do
      drop
      skipNewlines
      pure (.block [])
    | .mark "if" => do
      drop
      let test ← condition fuel
      let yes ← statement fuel setting
      if ← accept "else" then
        skipNewlines
        pure (.choice test yes (← statement fuel setting))
      else pure (.choice test yes (.block []))
    | .mark "while" => do
      drop
      let test ← condition fuel
      pure (.loop false (some test) (.block []) (← statement fuel inside))
    | .mark "do" => do
      drop
      skipNewlines
      let body ← statement fuel inside
      expect "while"
      expect "("
      let test ← expression fuel true
      expect ")"
      finishStatement
      pure (.loop true (some test) (.block []) body)
    | .mark "for" => do
      drop
      expect "("
      match eachNames? (← get) with
      | some (key, table) => do
        modify (·.drop 4)
        skipNewlines
        pure (.each key table (← statement fuel inside))
      | none => do
        let first ← expression? fuel
        expect ";"
        skipNewlines
        let test ← expression? fuel
        expect ";"
        skipNewlines
        let step ← expression? fuel
        expect ")"
        skipNewlines
        let body ← statement fuel inside
        pure (.block [orNothing first, .loop false test (orNothing step) body])
    | _ => do
      let s ← simple fuel setting
      finishStatement
      pure s

/-- Statements in braces. -/
def block (fuel : Nat) (setting : Setting) : Parse Statement :=
  match fuel with
  | 0 => refuse
  | fuel + 1 => do
    expect "\x7b"
    skipNewlines
    let body ← statements fuel setting
    expect "\x7d"
    skipNewlines
    pure (.block body)

/-- Statements up to a closing brace. -/
def statements (fuel : Nat) (setting : Setting) : Parse (List Statement) :=
  match fuel with
  | 0 => refuse
  | fuel + 1 => do
    if ← isNext "\x7d" then pure []
    else
      let first ← statement fuel setting
      pure (first :: (← statements fuel setting))

end

/-! ### Programs -/

def parameters (fuel : Nat) : Parse (List String) :=
  match fuel with
  | 0 => refuse
  | fuel + 1 => do
    if ← accept ")" then pure []
    else
      let first ← name
      if ← accept "," then
        skipNewlines
        pure (first :: (← parameters fuel))
      else
        expect ")"
        pure [first]

/-- A function, after the word that begins it. -/
def function (fuel : Nat) (known : List Function) : Parse Function := do
  let t ← peek
  match t.kind with
  | .name n | .call n => do
    drop
    expect "("
    let names ← parameters fuel
    skipNewlines
    if known.any (·.name = n) then complain (.twice n)
    else pure ⟨n, names, ← block fuel ⟨false, true, false⟩⟩
  | _ => refuse

/-- A rule that begins with an expression. -/
def testRule (fuel : Nat) : Parse Rule := do
  let start ← expression fuel true
  let pattern ← if ← accept "," then do
      skipNewlines
      pure (Pattern.range start (← expression fuel true))
    else pure (Pattern.test start)
  if ← isNext "\x7b" then pure ⟨pattern, ← block fuel ⟨false, false, true⟩⟩
  else
    finishStatement
    pure ⟨pattern, .print [] .output⟩

/-- All rules and functions. -/
def items : Nat → Program → Parse Program
  | 0, _ => refuse
  | fuel + 1, p => do
    skipNewlines
    let t ← peek
    let added (rule : Rule) : Program := { p with rules := p.rules ++ [rule] }
    match t.kind with
    | .finish => pure p
    | .mark "BEGIN" => do
      drop
      let body ← block fuel ⟨false, false, false⟩
      discard (accept ";")
      items fuel (added ⟨.first, body⟩)
    | .mark "END" => do
      drop
      let body ← block fuel ⟨false, false, false⟩
      discard (accept ";")
      items fuel (added ⟨.last, body⟩)
    | .mark "function" => do
      drop
      let f ← function fuel p.functions
      discard (accept ";")
      items fuel { p with functions := p.functions ++ [f] }
    | .mark "\x7b" => do
      let body ← block fuel ⟨false, false, true⟩
      discard (accept ";")
      items fuel (added ⟨.every, body⟩)
    | _ => do
      let rule ← testRule fuel
      discard (accept ";")
      items fuel (added rule)

/-- What has been read: rules and functions, and the names of the functions that are called. -/
structure Draft where
  program : Program
  calls : List String

def Draft.empty : Draft :=
  ⟨.empty, []⟩

/-- The names that are followed by a parenthesis. -/
def callsIn (ts : List Token) : List String :=
  ts.filterMap fun t =>
    match t.kind with
    | .call name => some name
    | _ => none

/-- A draft with what a text adds to it. -/
def Draft.add (d : Draft) (cs : List Char) : Except Complaint Draft := do
  let ts := tokens cs
  let (p, _) ← (items (12 * ts.length + 40) d.program).run ts
  .ok ⟨p, d.calls ++ callsIn ts⟩

/-- The first function that is called and never defined. -/
def Draft.undefined? (d : Draft) : Option String :=
  d.calls.find? fun name => !d.program.functions.any (·.name = name)

end Montage.Record
