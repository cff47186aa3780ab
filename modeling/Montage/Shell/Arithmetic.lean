import Montage.Number.Decimal
import Montage.Number.Numeral

/-!
Whole-number expressions. Numbers have 64 bits and wrap around; names stand for variables, and an
assignment is an expression too.
-/

namespace Montage.Shell

abbrev Word64 := Int

/-- The number of 64 bits that agrees with `n` in its lowest bits. -/
def wrap (n : Int) : Word64 :=
  Int.bmod n (pow2 64)

inductive Term
  | number (n : Int)
  | name (text : String)
  | op (text : String)

/-- The operators, longer ones first. -/
def termOperators : List String :=
  ["<<=", ">>=", "<<", ">>", "<=", ">=", "==", "!=", "&&", "||", "+=", "-=", "*=", "/=", "%=", "&=",
    "|=", "^=", "+", "-", "*", "/", "%", "<", ">", "=", "!", "~", "&", "|", "^", "?", ":", "(", ")"]

def hexValue (c : Char) : Nat :=
  if c.isDigit then c.toNat - 48 else c.toLower.toNat - 87

def isHexDigit (c : Char) : Bool :=
  c.isDigit || ('a' ≤ c.toLower && c.toLower ≤ 'f')

def valueIn (base : Nat) (digits : List Char) : Nat :=
  digits.foldl (fun n c => n * base + hexValue c) 0

/-- A number in the base that its beginning tells. -/
def unsignedNumber? (cs : List Char) : Option Nat :=
  match cs with
  | '0' :: 'x' :: digits | '0' :: 'X' :: digits =>
    if digits.isEmpty || !digits.all isHexDigit then none else some (valueIn 16 digits)
  | '0' :: digits =>
    if digits.all fun c => '0' ≤ c && c ≤ '7' then some (valueIn 8 digits) else none
  | digits => if digits.isEmpty || !digits.all Char.isDigit then none else some (valueIn 10 digits)

/-- The number that a text begins with, and what follows it. -/
def leadingNumber (cs : List Char) : Int × List Char :=
  let isSpace (c : Char) : Bool := c = ' ' || ('\t' ≤ c && c ≤ '\r')
  let (negative, body) := Numeral.signed (cs.dropWhile isSpace)
  let (base, lead) := match body with
    | '0' :: x :: c :: _ => if (x = 'x' || x = 'X') && isHexDigit c then (16, 2) else (8, 0)
    | '0' :: _ => (8, 0)
    | _ => (10, 0)
  let digits := (body.drop lead).takeWhile fun c => isHexDigit c && hexValue c < base
  if digits.isEmpty then (0, cs)
  else
    let n : Int := valueIn base digits
    (if negative then -n else n, body.drop (lead + digits.length))

/-- A number with blanks around it and at most one sign. Nothing at all counts as zero. -/
def number? (cs : List Char) : Option Int :=
  let isSpace (c : Char) : Bool := c = ' ' || ('\t' ≤ c && c ≤ '\r')
  let cs := ((cs.dropWhile isSpace).reverse.dropWhile isSpace).reverse
  if cs.isEmpty then some 0
  else
    let (negative, digits) := Numeral.signed cs
    (unsignedNumber? digits).map fun n => if negative then -n else n

/-- Why an expression has no value. -/
inductive SumError
  | expected (what : String)
  | divisionByZero
  /-- The quotient of the least number and minus one. -/
  | overflow
  | badNumber (text : String)

def SumError.message (expression : String) : SumError → String
  | expected what => "arithmetic expression: expecting " ++ what ++ ": \x22" ++ expression ++ "\x22"
  | divisionByZero => "arithmetic expression: division by zero: \x22" ++ expression ++ "\x22"
  | overflow => "arithmetic expression: overflow: \x22" ++ expression ++ "\x22"
  | badNumber text => "Illegal number: " ++ text

def terms : Nat → List Char → Except SumError (List Term)
  | 0, _ => .error (.expected "EOF")
  | _ + 1, [] => .ok []
  | fuel + 1, c :: rest =>
    if c = ' ' || ('\t' ≤ c && c ≤ '\r') then terms fuel rest
    else if c.isDigit then do
      let (n, rest) := leadingNumber (c :: rest)
      .ok (.number n :: (← terms fuel rest))
    else if c.isAlpha || c = '_' then do
      let isName (c : Char) : Bool := c.isAlphanum || c = '_'
      let later ← terms fuel (rest.dropWhile isName)
      .ok (.name (String.ofList (c :: rest.takeWhile isName)) :: later)
    else do
      let found := termOperators.find? fun op => op.toList.isPrefixOf (c :: rest)
      let op := found.getD (String.ofList [c])
      let later ← terms fuel ((c :: rest).drop op.length)
      .ok (.op op :: later)

/-- Variables as an expression sees and changes them, the latest first. -/
abbrev Bindings := List (String × Int)

/-- What an expression works on: the value of names, and what it has assigned. -/
structure Register where
  read : String → Except SumError Int
  written : Bindings
  /-- Whether the value does not matter any more, so that it need not exist. -/
  idle : Bool

def Register.value (r : Register) (name : String) : Except SumError Int :=
  if r.idle then .ok 0
  else match r.written.lookup name with
    | some n => .ok n
    | none => r.read name

def Register.write (r : Register) (name : String) (n : Int) : Register :=
  { r with written := (name, n) :: r.written }

/-- The operators between two operands, from those that bind least. -/
def levels : List (List String) :=
  [["||"], ["&&"], ["|"], ["^"], ["&"], ["==", "!="], ["<", "<=", ">", ">="], ["<<", ">>"],
    ["+", "-"], ["*", "/", "%"]]

def truth (b : Bool) : Int :=
  if b then 1 else 0

def unsigned (n : Int) : Nat :=
  (Int.emod n (pow2 64)).toNat

def bitwise (f : Nat → Nat → Nat) (a b : Int) : Int :=
  wrap (f (unsigned a) (unsigned b))

/-- The value of two operands joined by an operator. -/
def combine (idle : Bool) (op : String) (a b : Int) : Except SumError Int :=
  let divided (quotient : Int) : Except SumError Int :=
    if idle then .ok 0
    else if b = 0 then .error .divisionByZero
    else if b = -1 && a = -(pow2 63 : Int) then .error .overflow
    else .ok quotient
  match op with
  | "||" => .ok (truth (a ≠ 0 || b ≠ 0))
  | "&&" => .ok (truth (a ≠ 0 && b ≠ 0))
  | "|" => .ok (bitwise (· ||| ·) a b)
  | "^" => .ok (bitwise (· ^^^ ·) a b)
  | "&" => .ok (bitwise (· &&& ·) a b)
  | "==" => .ok (truth (a = b))
  | "!=" => .ok (truth (a ≠ b))
  | "<" => .ok (truth (a < b))
  | "<=" => .ok (truth (a ≤ b))
  | ">" => .ok (truth (b < a))
  | ">=" => .ok (truth (b ≤ a))
  | "<<" => .ok (wrap (a * pow2 (unsigned b % 64)))
  | ">>" => .ok (Int.fdiv a (pow2 (unsigned b % 64)))
  | "+" => .ok (wrap (a + b))
  | "-" => .ok (wrap (a - b))
  | "*" => .ok (wrap (a * b))
  | "/" => divided (Int.tdiv a b)
  | "%" => divided (Int.tmod a b)
  | _ => .error (.expected "EOF")

/-- A value, what has been assigned on the way to it, and the terms after it. -/
abbrev Reading := Except SumError (Int × Register × List Term)

/-- Reads operands joined by operators of one level, from the left. What does not decide the value
any more is read without effect. -/
def joined (next : List Term → Register → Reading) (ops : List String) :
    Nat → Int → Register → List Term → Reading
  | 0, _, _, _ => .error (.expected "EOF")
  | fuel + 1, a, r, ts =>
    match ts with
    | .op op :: rest =>
      if ops.contains op then do
        let decided := (op = "||" && a ≠ 0) || (op = "&&" && a = 0)
        let (b, r', rest) ← next rest { r with idle := r.idle || decided }
        let value ← combine r.idle op a b
        joined next ops fuel value (if decided then r else r') rest
      else .ok (a, r, ts)
    | ts => .ok (a, r, ts)

def binary (operand : List Term → Register → Reading) : List (List String) → List Term →
    Register → Reading
  | [], ts, r => operand ts r
  | ops :: tighter, ts, r => do
    let (a, r, rest) ← binary operand tighter ts r
    joined (binary operand tighter) ops (ts.length + 1) a r rest

/-- The operator in an assignment operator. -/
def assignedOp? (op : String) : Option (Option String) :=
  if op = "=" then some none
  else if ["<<=", ">>=", "+=", "-=", "*=", "/=", "%=", "&=", "|=", "^="].contains op then
    some (some (String.ofList op.toList.dropLast))
  else none

mutual

def operand (fuel : Nat) (ts : List Term) (r : Register) : Reading :=
  match fuel, ts with
  | 0, _ => .error (.expected "EOF")
  | _ + 1, .number n :: rest => .ok (min n (pow2 63 - 1), r, rest)
  | _ + 1, .name x :: rest => (r.value x).map (·, r, rest)
  | fuel + 1, .op op :: rest =>
    if op = "(" then do
      let (n, r, rest) ← expression fuel rest r
      match rest with
      | .op ")" :: rest => .ok (n, r, rest)
      | _ => .error (.expected "\x27)\x27")
    else if !(["+", "-", "!", "~"].contains op) then .error (.expected "primary")
    else do
      let (n, r, rest) ← operand fuel rest r
      match op with
      | "-" => .ok (wrap (-n), r, rest)
      | "!" => .ok (truth (n = 0), r, rest)
      | "~" => .ok (-n - 1, r, rest)
      | _ => .ok (n, r, rest)
  | _ + 1, [] => .error (.expected "primary")

/-- An assignment, or a choice between two values. -/
def expression (fuel : Nat) (ts : List Term) (r : Register) : Reading :=
  match fuel with
  | 0 => .error (.expected "EOF")
  | fuel + 1 =>
    let assigned := match ts with
      | .name x :: .op op :: rest => (assignedOp? op).map (x, ·, rest)
      | _ => none
    match assigned with
    | some (x, op, rest) => do
      let (n, r, rest) ← expression fuel rest r
      let value ← match op with
        | none => .ok n
        | some op => do combine r.idle op (← r.value x) n
      .ok (value, r.write x value, rest)
    | none => alternative fuel ts r

/-- A choice between two values, or operands joined by operators. -/
def alternative (fuel : Nat) (ts : List Term) (r : Register) : Reading :=
  match fuel with
  | 0 => .error (.expected "EOF")
  | fuel + 1 => do
    let (n, r, rest) ← binary (operand fuel) levels ts r
    match rest with
    | .op "?" :: rest => do
      let (a, ra, rest) ← expression fuel rest { r with idle := r.idle || n = 0 }
      match rest with
      | .op ":" :: rest =>
        let (b, rb, rest) ← alternative fuel rest { r with idle := r.idle || n ≠ 0 }
        let written := if n ≠ 0 then ra.written else rb.written
        .ok (if n ≠ 0 then a else b, { r with written := written }, rest)
      | _ => .error (.expected "\x27:\x27")
    | rest => .ok (n, r, rest)

end

/-- The value of an expression, and what it assigns. -/
def calculate (read : String → Except SumError Int) (cs : List Char) :
    Except SumError (Int × Bindings) := do
  let ts ← terms (cs.length + 1) cs
  let (n, r, rest) ← expression (2 * ts.length + 4) ts ⟨read, [], false⟩
  if rest.isEmpty then .ok (n, r.written) else .error (.expected "EOF")

end Montage.Shell
