import Montage.Record.Token

/-!
Reading expressions from the tokens of a program.
-/

namespace Montage.Record

/-- A part that is read from tokens, which leaves those after it. -/
abbrev Parse := StateT (List Token) (Except Complaint)

def Token.isNewline (t : Token) : Bool :=
  match t.kind with
  | .newline => true
  | _ => false

/-- The complaint that a token cannot stand where it does. -/
def Token.complaint (t : Token) : Complaint :=
  let closes := t.isNewline || t.isMark ";" || t.isMark "\x7d"
  let shown := if t.isNewline then "end of line" else t.shown
  match t.kind with
  | .wrong fault => ⟨t.line, fault⟩
  | .finish => ⟨t.line, .missing '\x7d' "end of file"⟩
  | _ => ⟨t.line, if closes && 0 < t.depth then .missing ')' shown else .near shown⟩

namespace Parse

def peek : Parse Token := do
  pure ((← get).headD ⟨.finish, 0, "", 0⟩)

def drop : Parse Unit :=
  modify (·.drop 1)

/-- The next token cannot stand where it does. -/
def refuse {α : Type} : Parse α := do
  throw (← peek).complaint

def complain {α : Type} (fault : Fault) : Parse α := do
  throw ⟨(← peek).line, fault⟩

/-- Whether an operator or word comes next. -/
def isNext (text : String) : Parse Bool := do
  pure ((← peek).isMark text)

/-- Takes an operator or word if it comes next. -/
def accept (text : String) : Parse Bool := do
  let found ← isNext text
  if found then drop
  pure found

def expect (text : String) : Parse Unit := do
  unless ← accept text do refuse

def skipNewlines : Parse Unit :=
  modify (·.dropWhile Token.isNewline)

def name : Parse String := do
  match (← peek).kind with
  | .name n => do
    drop
    pure n
  | _ => refuse

/-- What ends a simple statement; a closing brace is left. -/
def finishStatement : Parse Unit := do
  let t ← peek
  if t.isMark ";" then
    drop
    skipNewlines
  else if t.isNewline then skipNewlines
  else unless t.isMark "\x7d" do refuse

end Parse

open Parse

/-! ### Operators -/

/-- An operator between two operands: how tightly it binds, and what it makes of them. -/
def operator? (greater : Bool) (t : Token) : Option (Nat × (Expr → Expr → Expr)) :=
  match t.kind with
  | .mark "||" => some (1, .either)
  | .mark "&&" => some (2, .both)
  | .mark "~" => some (4, .fits true)
  | .mark "!~" => some (4, .fits false)
  | .mark "<" => some (5, .compare .less)
  | .mark "<=" => some (5, .compare .lessOrEqual)
  | .mark "==" => some (5, .compare .equal)
  | .mark "!=" => some (5, .compare .different)
  | .mark ">=" => some (5, .compare .greaterOrEqual)
  | .mark ">" => if greater then some (5, .compare .greater) else none
  | .mark "+" => some (7, .arithmetic .add)
  | .mark "-" => some (7, .arithmetic .subtract)
  | .mark "*" => some (8, .arithmetic .multiply)
  | .mark "/" => some (8, .arithmetic .divide)
  | .mark "%" => some (8, .arithmetic .remainder)
  | _ => none

/-- How tightly `in` binds, and how tightly operands that follow one another are joined. -/
def memberLevel : Nat := 3

def joinLevel : Nat := 6

def assignment? (t : Token) : Option (Option Arithmetic) :=
  match t.kind with
  | .mark "=" => some none
  | .mark "+=" => some (some .add)
  | .mark "-=" => some (some .subtract)
  | .mark "*=" => some (some .multiply)
  | .mark "/=" => some (some .divide)
  | .mark "%=" => some (some .remainder)
  | .mark "^=" => some (some .power)
  | _ => none

/-- Whether a token can begin an operand that is joined to the one before it. -/
def beginsOperand (t : Token) : Bool :=
  match t.kind with
  | .number _ | .text _ | .pattern _ | .name _ | .call _ | .native _ => true
  | .mark m => ["(", "$", "!", "++", "--"].contains m
  | _ => false

/-- How many arguments a function takes, at least and at most. -/
def Native.arity : Native → Nat × Nat
  | .length | .seed | .flush => (0, 1)
  | .random | .moment => (0, 0)
  | .index | .position | .angle => (2, 2)
  | .substring | .split | .sub | .gsub => (2, 3)
  | .format => (1, 1000)
  | .date => (0, 3)
  | _ => (1, 1)

/-- The form in which the expressions are written that programs look for. -/
def patternForm : Regex.Form :=
  ⟨true, true, true, true, true, false⟩

/-- An expression to look for. -/
def pattern (cs : List Char) : Parse Expr := do
  match Regex.read patternForm cs with
  | .ok r => pure (.look r)
  | .error fault => complain (.pattern fault (String.ofList cs))

/-- A text in which an expression to look for is written. -/
def lookFor (e : Expr) : Parse Expr :=
  match e with
  | .text cs => pattern cs
  | e => pure e

/-- Whether what follows the operator is looked for. -/
def Token.isFit (t : Token) : Bool :=
  t.isMark "~" || t.isMark "!~"

/-! ### Expressions -/

mutual

/-- An expression. In some places a greater sign is no operator. -/
def expression (fuel : Nat) (greater : Bool) : Parse Expr :=
  match fuel with
  | 0 => refuse
  | fuel + 1 => do
    let test ← operand fuel greater 1
    if ← accept "?" then
      let yes ← expression fuel greater
      expect ":"
      let no ← expression fuel greater
      pure (.choose test yes no)
    else pure test

/-- Operands with operators that bind tightly enough. -/
def operand (fuel : Nat) (greater : Bool) (least : Nat) : Parse Expr :=
  match fuel with
  | 0 => refuse
  | fuel + 1 => do climb fuel greater least (← unary fuel greater)

/-- What follows a first operand. -/
def climb (fuel : Nat) (greater : Bool) (least : Nat) (left : Expr) : Parse Expr :=
  match fuel with
  | 0 => refuse
  | fuel + 1 => do
    let t ← peek
    match operator? greater t with
    | some (level, make) =>
      if level < least then pure left
      else
        drop
        if level ≤ 2 then skipNewlines
        let right ← operand fuel greater (level + 1)
        climb fuel greater least (make left (← if t.isFit then lookFor right else pure right))
    | none =>
      if t.isMark "in" && least ≤ memberLevel then
        drop
        let table ← name
        climb fuel greater least (.isIn [left] table)
      else if beginsOperand t && least ≤ joinLevel then
        let right ← operand fuel greater (joinLevel + 1)
        climb fuel greater least (.join left right)
      else pure left

def unary (fuel : Nat) (greater : Bool) : Parse Expr :=
  match fuel with
  | 0 => refuse
  | fuel + 1 => do
    if ← accept "!" then pure (.no (← unary fuel greater))
    else if ← accept "-" then pure (.negate (← unary fuel greater))
    else if ← accept "+" then pure (.plus (← unary fuel greater))
    else piped fuel (← power fuel greater)

/-- Records that are read from the command which an operand is. -/
def piped (fuel : Nat) (command : Expr) : Parse Expr :=
  match fuel with
  | 0 => refuse
  | fuel + 1 => do
    let following := (← get).drop 1
    if (← isNext "|") && following.head?.any (·.isMark "getline") then
      drop
      drop
      piped fuel (.readCommand command (← place? fuel))
    else pure command

def power (fuel : Nat) (greater : Bool) : Parse Expr :=
  match fuel with
  | 0 => refuse
  | fuel + 1 => do
    let base ← stepped fuel greater
    if ← accept "^" then pure (.arithmetic .power base (← unary fuel greater)) else pure base

/-- An operand with one more or less, or one that is given a value. -/
def stepped (fuel : Nat) (greater : Bool) : Parse Expr :=
  match fuel with
  | 0 => refuse
  | fuel + 1 => do
    let up ← accept "++"
    let down ← if up then pure false else accept "--"
    if up || down then
      let t ← peek
      match ← primary fuel with
      | .get place => pure (.step place up false)
      | _ => throw t.complaint
    else
      match ← primary fuel with
      | .get place =>
        if ← accept "++" then pure (.step place true true)
        else if ← accept "--" then pure (.step place false true)
        else
          match assignment? (← peek) with
          | some op => do
            drop
            pure (.assign place op (← expression fuel greater))
          | none => pure (.get place)
      | e => pure e

/-- A place, if a name or a field comes next. -/
def place? (fuel : Nat) : Parse (Option Place) :=
  match fuel with
  | 0 => refuse
  | fuel + 1 => do
    let t ← peek
    let begins := match t.kind with
      | .name _ => true
      | _ => t.isMark "$"
    if begins then
      match ← primary fuel with
      | .get place => pure (some place)
      | _ => refuse
    else pure none

def primary (fuel : Nat) : Parse Expr :=
  match fuel with
  | 0 => refuse
  | fuel + 1 => do
    let t ← peek
    match t.kind with
    | .number x => do
      drop
      pure (.number x)
    | .text cs => do
      drop
      pure (.text cs)
    | .pattern cs => do
      let e ← pattern cs
      drop
      pure e
    | .name n => do
      drop
      if ← accept "[" then
        let keys ← expressions fuel
        expect "]"
        pure (.get (.entry n keys))
      else pure (.get (.named n))
    | .call n => do
      drop
      drop
      let args ← if ← isNext ")" then pure [] else expressions fuel
      expect ")"
      pure (.call n args)
    | .native f => do
      drop
      let args ← arguments fuel f
      let (least, most) := f.arity
      if args.length < least || most < args.length then complain (.argumentCount t.shown)
      else pure (.native f args)
    | .mark "$" => do
      drop
      let next ← peek
      let number ← if ["-", "+", "!"].any next.isMark then unary fuel true
        else if ["++", "--"].any next.isMark then stepped fuel true
        else primary fuel
      pure (.get (.field number))
    | .mark "(" => do
      drop
      let es ← expressions fuel
      expect ")"
      match es with
      | [e] => pure e
      | es => do
        expect "in"
        pure (.isIn es (← name))
    | .mark "getline" => do
      drop
      let place ← place? fuel
      if ← accept "<" then pure (.readFile (← stepped fuel true) place)
      else pure (.readNext place)
    | _ => refuse

/-- The arguments of a function that every program has. The length needs none. -/
def arguments (fuel : Nat) (f : Native) : Parse (List Expr) :=
  match fuel with
  | 0 => refuse
  | fuel + 1 => do
    if f = .length && !(← isNext "(") then pure []
    else
      expect "("
      let args ← if ← isNext ")" then pure [] else expressions fuel
      expect ")"
      pure args

/-- Expressions with commas between them. -/
def expressions (fuel : Nat) : Parse (List Expr) :=
  match fuel with
  | 0 => refuse
  | fuel + 1 => do
    let first ← expression fuel true
    if ← accept "," then
      skipNewlines
      pure (first :: (← expressions fuel))
    else pure [first]

end

end Montage.Record
