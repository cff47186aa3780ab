import Montage.Shell.Arithmetic
import Montage.Shell.State

/-!
Tests: conditions on texts, numbers and files.
-/

namespace Montage.Shell

def wholeNumber (text : String) : Except String Int :=
  let isSpace (c : Char) : Bool := c = ' ' || ('\t' ≤ c && c ≤ '\r')
  let cs := ((text.toList.dropWhile isSpace).reverse.dropWhile isSpace).reverse
  let (negative, digits) := Numeral.signed cs
  if digits.isEmpty || !digits.all Char.isDigit || pow2 63 ≤ Numeral.value digits then
    .error ("Illegal number: " ++ text)
  else .ok (if negative then -(Numeral.value digits : Int) else Numeral.value digits)

/-- Two paths lead to one place. -/
def samePlace (d : Disk) (a b : String) : Bool :=
  match d.reach (pathOf a), d.reach (pathOf b) with
  | .ok x, .ok y => x.place = y.place
  | _, _ => false

/-- Whether a file was written after another one. -/
def isNewer (d : Disk) (a b : String) : Bool :=
  match d.modifiedAt? (pathOf a), d.modifiedAt? (pathOf b) with
  | some x, some y => y < x
  | _, _ => false

def compare (d : Disk) (a op b : String) : Except String Bool :=
  match op with
  | "=" => .ok (a = b)
  | "!=" => .ok (a ≠ b)
  | "<" => .ok (decide (a < b))
  | ">" => .ok (decide (b < a))
  | "-ef" =>
    match d.look (pathOf a), d.look (pathOf b) with
    | .ok (.file x), .ok (.file y) => .ok (x = y)
    | .ok (.directory _), .ok (.directory _) => .ok (samePlace d a b)
    | _, _ => .ok false
  | "-nt" => .ok (isNewer d a b)
  | "-ot" => .ok (isNewer d b a)
  | _ => do
    let x ← wholeNumber a
    let y ← wholeNumber b
    match op with
    | "-eq" => .ok (x = y)
    | "-ne" => .ok (x ≠ y)
    | "-lt" => .ok (x < y)
    | "-le" => .ok (x ≤ y)
    | "-gt" => .ok (y < x)
    | _ => .ok (y ≤ x)

/-- A condition on one text, if there is one of that name. -/
def single? (d : Disk) (op a : String) : Option Bool :=
  let file := d.node? (pathOf a)
  match op with
  | "-n" => some (a ≠ "")
  | "-z" => some (a = "")
  | "-e" | "-r" | "-w" | "-O" | "-G" => some file.isSome
  | "-f" => some (d.isFile (pathOf a))
  | "-d" => some (d.isDirectory (pathOf a))
  | "-s" => some (file.any fun
    | .file content => !content.bytes.isEmpty
    | _ => true)
  | "-x" => some (file.any fun
    | .file content => content.executable
    | _ => true)
  | "-c" => some (d.isDevice (d.look (pathOf a)).toOption)
  | "-h" | "-L" => some (d.readLink (pathOf a)).isOk
  | "-p" | "-S" | "-b" | "-u" | "-g" | "-k" => some false
  | _ => none

/-- What a word of a test is. -/
inductive Role
  | ending
  | operand
  | single
  | comparison
  | not
  | and
  | or
  | opening
  | closing
  deriving DecidableEq

def roleOf (word : String) : Role :=
  if ["=", "!=", "<", ">", "-eq", "-ne", "-lt", "-le", "-gt", "-ge", "-ef", "-nt", "-ot"].contains
    word then .comparison
  else if ["-r", "-w", "-x", "-e", "-f", "-d", "-c", "-b", "-p", "-u", "-g", "-k", "-s", "-t", "-z",
    "-n", "-h", "-O", "-G", "-L", "-S"].contains word then .single
  else match word with
    | "!" => .not
    | "-a" => .and
    | "-o" => .or
    | "(" => .opening
    | ")" => .closing
    | _ => .operand

/-- The role of the first word, which hangs on what follows: an operator on one text needs a text,
unless a comparison comes next. -/
def firstRole (words : List String) : Role :=
  match words with
  | [] => .ending
  | word :: rest =>
    let stands : Bool := match rest with
      | [] => true
      | [_] => false
      | next :: _ => roleOf next = .comparison
    match roleOf word with
    | .single => if stands then .operand else .single
    | .opening => if rest.isEmpty then .operand else .opening
    | role => role

/-- The truth of a part of a test, and the words from the last one of that part on. -/
abbrev Verdict := Except String (Bool × List String)

/-- What is wrong with a word, if there is anything to be seen of it. -/
def wordFault (word what : String) : String :=
  if word = "" then what else word ++ ": " ++ what

/-- Two words and the comparison between them. -/
def comparison (d : Disk) (words : List String) : Verdict :=
  match words with
  | a :: op :: b :: rest => (compare d a op b).map (·, b :: rest)
  | _ :: op :: _ => .error (wordFault op "argument expected")
  | _ => .error "argument expected"

mutual

/-- Conditions joined by `-o`, each of them joined by `-a`. -/
def disjunction (d : Disk) (fuel : Nat) (role : Role) (words : List String) : Verdict :=
  match fuel with
  | 0 => .error "too many arguments"
  | fuel + 1 => do
    let (first, words) ← conjunction d fuel role words
    if firstRole (words.drop 1) = .or then
      let words := words.drop 2
      let (second, words) ← disjunction d fuel (firstRole words) words
      .ok (first || second, words)
    else .ok (first, words)

def conjunction (d : Disk) (fuel : Nat) (role : Role) (words : List String) : Verdict :=
  match fuel with
  | 0 => .error "too many arguments"
  | fuel + 1 => do
    let (first, words) ← negation d fuel role words
    if firstRole (words.drop 1) = .and then
      let words := words.drop 2
      let (second, words) ← conjunction d fuel (firstRole words) words
      .ok (first && second, words)
    else .ok (first, words)

def negation (d : Disk) (fuel : Nat) (role : Role) (words : List String) : Verdict :=
  match fuel with
  | 0 => .error "too many arguments"
  | fuel + 1 =>
    if role ≠ .not then primary d fuel role words
    else do
      let next := words.drop 1
      let (truth, words) ← negation d fuel (firstRole next) (if next.isEmpty then words else next)
      .ok (!truth, words)

def primary (d : Disk) (fuel : Nat) (role : Role) (words : List String) : Verdict :=
  match fuel with
  | 0 => .error "too many arguments"
  | fuel + 1 =>
    match role, words with
    | .ending, words => .ok (false, words)
    | .opening, _ :: words =>
      if firstRole words = .closing then .ok (false, words)
      else do
        let (truth, words) ← disjunction d fuel (firstRole words) words
        if firstRole (words.drop 1) = .closing then .ok (truth, words.drop 1)
        else .error "closing paren expected"
    | .single, "-t" :: a :: rest => (wholeNumber a).map fun _ => (false, a :: rest)
    | .single, op :: a :: rest => .ok ((single? d op a).getD false, a :: rest)
    | .single, op :: [] => .error (wordFault op "argument expected")
    | _, words =>
      if firstRole (words.drop 1) = .comparison then comparison d words
      else .ok (words.head?.any (· ≠ ""), words)

end

/-- The truth of a whole test, with so many leading words that turn it around. -/
def holdsFrom (d : Disk) (words : List String) : Except String Bool := do
  let role := match words with
    | [_, op, _] => if roleOf op = .comparison then .operand else firstRole words
    | words => firstRole words
  let (truth, rest) ← disjunction d (4 * words.length + 8) role words
  match rest with
  | last :: _ :: _ => .error (wordFault last "unexpected operator")
  | _ => .ok truth

/-- The truth of a whole test. Three or four words can be in parentheses, or turned around by the
first of them. -/
def holds (d : Disk) : Nat → List String → Except String Bool
  | 0, words => holdsFrom d words
  | _ + 1, [] => .ok false
  | turns + 1, words =>
    let compares := match words with
      | [_, op, _] => roleOf op = .comparison
      | _ => false
    if compares || words.length < 3 || 4 < words.length then holdsFrom d words
    else if words.head? = some "(" && words.getLast? = some ")" then
      holdsFrom d (words.drop 1).dropLast
    else if words.head? = some "!" then (holds d turns (words.drop 1)).map (!·)
    else holdsFrom d words

namespace State

/-- The condition that the arguments are, as a status. A fault is told by `tell`. -/
def test (tell : State → String → State) (s : State) (args : List String) : State :=
  match holds s.disk args.length args with
  | .ok truth => s.finish (if truth then 0 else 1)
  | .error what => (tell s what).finish 2

/-- The same between brackets. -/
def bracket (tell : State → String → State) (s : State) (args : List String) : State :=
  if args.getLast? = some "]" then s.test tell args.dropLast
  else (tell s "missing ]").finish 2

end State

end Montage.Shell
