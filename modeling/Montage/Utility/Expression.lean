import Montage.Regex.Match
import Montage.Regex.Reader
import Montage.Utility.Input

/-!
The value of an expression that is given word by word.
-/

namespace Montage.Utility

open Shell

/-- What is wrong with an expression. -/
inductive ExpressionError
  | missingAfter (word : String)
  | unexpected (word : String)
  | strayParenthesis
  | unclosed (after : String)
  | notClosed (word : String)
  | notANumber
  | divisionByZero
  | pattern (fault : Regex.Fault)

def ExpressionError.message : ExpressionError → String
  | missingAfter word => "syntax error: missing argument after " ++ quotedWord word
  | unexpected word => "syntax error: unexpected argument " ++ quotedWord word
  | strayParenthesis => "syntax error: unexpected ')'"
  | unclosed after => "syntax error: expecting ')' after " ++ quotedWord after
  | notClosed word => "syntax error: expecting ')' instead of " ++ quotedWord word
  | notANumber => "non-integer argument"
  | divisionByZero => "division by zero"
  | pattern fault => fault.message

namespace Expression

def number? (text : String) : Option Int :=
  let (negative, digits) := match text.toList with
    | '-' :: digits => (true, digits)
    | digits => (false, digits)
  if digits.isEmpty || !digits.all Char.isDigit then none
  else some (if negative then -(Numeral.value digits : Int) else Numeral.value digits)

/-- A value that counts as nothing: the empty text, or a zero. -/
def isNothing (text : String) : Bool :=
  text = "" || number? text = some 0

def truth (b : Bool) : String :=
  if b then "1" else "0"

/-- What of a text a pattern fits, from its start: the part in its first parentheses, or the length
of it. -/
def fitting (text pattern : String) : Except ExpressionError String :=
  match Regex.read .basic pattern.toList with
  | .error fault => .error (.pattern fault)
  | .ok r =>
    let cs := text.toList
    match Regex.matchAt? r ⟨false, false⟩ cs (.start cs), decide (0 < r.groups) with
    | some m, true => .ok (String.ofList ((Regex.captured cs m.captures 1).getD []))
    | some m, false => .ok (Decimal.natural (m.text cs).length)
    | none, true => .ok ""
    | none, false => .ok "0"

/-- Two values compared: as numbers where both are such, else as texts. -/
def compare (op a b : String) : Bool :=
  let order : Ordering := match number? a, number? b with
    | some x, some y => Ord.compare x y
    | _, _ => if a = b then .eq else if a < b then .lt else .gt
  match op with
  | "<" => order.isLT
  | "<=" => order.isLE
  | "=" | "==" => order.isEq
  | "!=" => order.isNe
  | ">=" => order.isGE
  | _ => order.isGT

def calculate (op a b : String) : Except ExpressionError String :=
  match number? a, number? b with
  | some x, some y =>
    match op with
    | "+" => .ok (Decimal.integer (x + y))
    | "-" => .ok (Decimal.integer (x - y))
    | "*" => .ok (Decimal.integer (x * y))
    | op =>
      if y = 0 then .error .divisionByZero
      else .ok (Decimal.integer (if op = "/" then x.tdiv y else x.tmod y))
  | _, _ => .error .notANumber

/-- Two values joined by an operator. One that is not active has no value of its own. -/
def combine (active : Bool) (op a b : String) : Except ExpressionError String :=
  match op with
  | "|" => .ok (if !isNothing a then a else if !isNothing b then b else "0")
  | "&" => .ok (if isNothing a || isNothing b then "0" else a)
  | ":" => if active then fitting a b else .ok a
  | "+" | "-" | "*" | "/" | "%" => if active then calculate op a b else .ok a
  | op => .ok (truth (compare op a b))

/-- A part of a text, from a place that counts from one. -/
def part (text start length : String) : String :=
  match number? start, number? length with
  | some start, some length =>
    if start ≤ 0 || length ≤ 0 then ""
    else String.ofList ((text.toList.drop (start.toNat - 1)).take length.toNat)
  | _, _ => ""

/-- The first place in a text of one of some characters. -/
def place (text set : String) : String :=
  let cs := text.toList
  let i := cs.findIdx set.toList.contains
  Decimal.natural (if i < cs.length then i + 1 else 0)

/-- The operators, those that join least first. -/
def levels : List (List String) :=
  [["|"], ["&"], ["<", "<=", "=", "==", "!=", ">=", ">"], ["+", "-"], ["*", "/", "%"], [":"]]

/-- Whether the second value of an operator matters, after the first one. -/
def needsSecond (op a : String) : Bool :=
  match op with
  | "|" => isNothing a
  | "&" => !isNothing a
  | _ => true

abbrev Reading := Except ExpressionError (String × List String)

/-- The word before the rest. -/
def lastRead (words rest : List String) : String :=
  words[words.length - rest.length - 1]?.getD ""

mutual

/-- Values joined by the operators of some levels. -/
def joined (words : List String) (fuel : Nat) (ops : List (List String)) (active : Bool)
    (rest : List String) : Reading :=
  match fuel, ops with
  | 0, _ => .error .notANumber
  | fuel + 1, [] => single words fuel active rest
  | fuel + 1, first :: tighter => do
    let (a, rest) ← joined words fuel tighter active rest
    more words fuel first tighter active a rest

/-- A value, and what the operators of one level add to it. -/
def more (words : List String) (fuel : Nat) (first : List String) (tighter : List (List String))
    (active : Bool) (a : String) (rest : List String) : Reading :=
  match fuel, rest with
  | 0, _ => .error .notANumber
  | _ + 1, [] => .ok (a, [])
  | fuel + 1, op :: after =>
    if !first.contains op then .ok (a, op :: after)
    else do
      let used := active && needsSecond op a
      let (b, rest) ← joined words fuel tighter used after
      let value ← combine used op a b
      more words fuel first tighter active value rest

/-- A value that is no longer joined: a word, something in parentheses, or a function. -/
def single (words : List String) (fuel : Nat) (active : Bool) (rest : List String) : Reading :=
  match fuel with
  | 0 => .error .notANumber
  | fuel + 1 =>
    match rest with
    | [] => .error (.missingAfter (lastRead words rest))
    | "+" :: word :: rest => .ok (word, rest)
    | "+" :: [] => .error (.missingAfter "+")
    | "length" :: rest => do
      let (a, rest) ← single words fuel active rest
      .ok (Decimal.natural a.length, rest)
    | "match" :: rest => do
      let (a, rest) ← single words fuel active rest
      let (b, rest) ← single words fuel active rest
      .ok (← combine active ":" a b, rest)
    | "index" :: rest => do
      let (a, rest) ← single words fuel active rest
      let (b, rest) ← single words fuel active rest
      .ok (place a b, rest)
    | "substr" :: rest => do
      let (a, rest) ← single words fuel active rest
      let (b, rest) ← single words fuel active rest
      let (c, rest) ← single words fuel active rest
      .ok (part a b c, rest)
    | "(" :: rest => do
      let (a, rest) ← joined words fuel levels active rest
      match rest with
      | ")" :: rest => .ok (a, rest)
      | [] => .error (.unclosed (lastRead words rest))
      | word :: _ => .error (.notClosed word)
    | ")" :: _ => .error .strayParenthesis
    | word :: rest => .ok (word, rest)

end

/-- The value of all the words. -/
def value (words : List String) : Except ExpressionError String := do
  let (a, rest) ← joined words (16 * words.length + 32) levels true words
  match rest with
  | [] => .ok a
  | word :: _ => .error (.unexpected word)

end Expression

/-- Tells the value of an expression. -/
def expr (s : State) (args : List String) : State :=
  match if args.head? = some "--" then args.drop 1 else args with
  | [] => misused s "expr" "missing operand" 2
  | words =>
    match Expression.value words with
    | .ok text => (s.say (text ++ "\n")).finish (if Expression.isNothing text then 1 else 0)
    | .error e => (s.complain ("expr: " ++ e.message)).finish 2

end Montage.Utility
