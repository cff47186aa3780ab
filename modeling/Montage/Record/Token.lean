import Montage.Number.Numeral
import Montage.Record.Program
import Montage.Regex.Reader
import Montage.Text.Escape

/-!
The tokens of a program. A slash begins an expression to look for where no operator can stand.
-/

namespace Montage.Record

/-- What is wrong with a program. -/
inductive Fault
  | near (what : String)
  | missing (mark : Char) (what : String)
  | extra (mark : Char)
  | openText (start : String)
  | openPattern (start : String)
  | character (c : Char)
  | overflow (text : String)
  | undefined (name : String)
  | twice (name : String)
  | argumentCount (name : String)
  | noArguments
  | outsideLoop (word : String)
  | outsideFunction
  | misused (word : String)
  | pattern (fault : Regex.Fault) (text : String)

/-- A fault and the line it is in. -/
structure Complaint where
  line : Nat
  fault : Fault

/-- What is wrong with an expression that is looked for. -/
def patternReason (fault : Regex.Fault) : String :=
  match fault with
  | .parenthesis => "missing ')'"
  | .closing => "missing '('"
  | .nothingToRepeat => "missing operand"
  | .size => "resource exhaustion -- regular expression too large"
  | .braceContent => "bad interval expression"
  | _ => "bad class -- [], [^] or ["

/-- The same with the expression itself. -/
def patternMessage (fault : Regex.Fault) (text : String) : String :=
  "regular expression compile failed (" ++ patternReason fault ++ ")\n" ++ text

def Complaint.message (c : Complaint) : String :=
  let line := Decimal.natural c.line
  let plain (words : String) : String := "line " ++ line ++ ": " ++ words
  match c.fault with
  | .near what => plain ("syntax error at or near " ++ what)
  | .missing mark what => plain ("missing " ++ String.ofList [mark] ++ " near " ++ what)
  | .extra mark => plain ("extra '" ++ String.ofList [mark] ++ "'")
  | .openText start => plain ("runaway string constant \x22" ++ start ++ " ...")
  | .openPattern start => plain ("runaway regular expression /" ++ start ++ " ...")
  | .character d => line ++ ": unexpected character '" ++ String.ofList [d] ++ "'"
  | .overflow text => plain (text ++ " : decimal overflow")
  | .undefined name => plain ("function " ++ name ++ " never defined")
  | .twice name => plain ("redefinition of " ++ name)
  | .argumentCount name => plain ("wrong number of arguments in call to " ++ name)
  | .noArguments => plain "no arguments in call to printf"
  | .outsideLoop word => plain (word ++ " statement outside of loop")
  | .outsideFunction => plain "return outside function body"
  | .misused word => plain ("improper use of " ++ word)
  | .pattern fault text => plain (patternMessage fault text)

inductive Kind
  | number (x : Binary64)
  | text (cs : List Char)
  | pattern (cs : List Char)
  | name (name : String)
  /-- A name with a parenthesis right after it. -/
  | call (name : String)
  | native (f : Native)
  /-- An operator, or a word with a meaning of its own. -/
  | mark (text : String)
  | newline
  | finish
  | wrong (fault : Fault)

structure Token where
  kind : Kind
  line : Nat
  /-- How it is written. -/
  shown : String
  /-- How many parentheses are open. -/
  depth : Nat

def keywords : List String :=
  ["BEGIN", "END", "function", "if", "else", "while", "for", "do", "break", "continue", "next",
    "nextfile", "exit", "return", "delete", "in", "getline", "print", "printf"]

def natives : List (String × Native) :=
  [("length", .length), ("substr", .substring), ("index", .index), ("split", .split), ("sub", .sub),
    ("gsub", .gsub), ("match", .position), ("sprintf", .format), ("sin", .sine), ("cos", .cosine),
    ("atan2", .angle), ("exp", .exponential), ("log", .logarithm), ("sqrt", .root), ("int", .whole),
    ("rand", .random), ("srand", .seed), ("tolower", .lower), ("toupper", .upper),
    ("system", .system), ("close", .close), ("fflush", .flush), ("systime", .moment),
    ("strftime", .date)]

/-- The operators, longer ones before those they begin with. -/
def operators : List String :=
  ["&&", "||", "++", "--", "+=", "-=", "*=", "/=", "%=", "^=", "==", "<=", ">=", "!=", "!~", ">>",
    "\x7b", "\x7d", "(", ")", "[", "]", ";", ",", "+", "-", "*", "/", "%", "^", "!", "<", ">", "|",
    "?", ":", "~", "$", "="]

/-- Whether an operand has just ended, so that a slash divides it. -/
def endsOperand : Option Kind → Bool
  | some (.number _) | some (.text _) | some (.pattern _) | some (.name _) => true
  | some (.native f) => f = .length
  | some (.mark m) => [")", "]", "$", "++", "--"].contains m
  | _ => false

/-- A text as it is written up to the quote that ends it, and what follows; none if its line ends
before. -/
def textBody : List Char → Option (List Char × List Char)
  | [] => none
  | '\x22' :: rest => some ([], rest)
  | '\n' :: _ => none
  | '\\' :: c :: rest => (textBody rest).map fun (cs, rest) => ('\\' :: c :: cs, rest)
  | c :: rest => (textBody rest).map fun (cs, rest) => (c :: cs, rest)

/-- The text that is meant by one with backslashes in it. One at the end of a line goes on with the
next; one that means nothing stays. -/
def unescaped : List Char → List Char
  | [] => []
  | '\\' :: '\n' :: rest => unescaped rest
  | '\\' :: rest =>
    match h : Text.escaped? rest with
    | some (c, after) =>
      have := Text.escaped?_length h
      c :: unescaped after
    | none =>
      match rest with
      | [] => ['\\']
      | c :: rest =>
        let written := if c = '\x22' || c = '\\' then [c] else ['\\', c]
        written ++ unescaped rest
  | c :: rest => c :: unescaped rest
termination_by cs => cs.length
decreasing_by all_goals simp_all <;> omega

/-- An expression up to the slash that ends it. A slash in brackets does not. -/
def patternBody (inBrackets : Bool) : List Char → Option (List Char × List Char)
  | [] => none
  | '\n' :: _ => none
  | '\\' :: '/' :: rest => (patternBody inBrackets rest).map fun (cs, rest) => ('/' :: cs, rest)
  | '\\' :: c :: rest =>
    (patternBody inBrackets rest).map fun (cs, rest) => ('\\' :: c :: cs, rest)
  | c :: rest =>
    if c = '/' && !inBrackets then some ([], rest)
    else
      let inside := if inBrackets then c ≠ ']' else c = '['
      (patternBody inside rest).map fun (cs, rest) => (c :: cs, rest)

def isNameStart (c : Char) : Bool :=
  c.isAlpha || c = '_'

def isNamePart (c : Char) : Bool :=
  c.isAlphanum || c = '_'

/-- The number in front of a text: digits with a point, and a power. -/
def numberLength (cs : List Char) : Nat :=
  let whole := cs.takeWhile Char.isDigit
  let rest := cs.drop whole.length
  let fraction := match rest with
    | '.' :: rest => (rest.takeWhile Char.isDigit).length + 1
    | _ => 0
  let power := match rest.drop fraction with
    | e :: rest =>
      let sign := match rest with
        | '+' :: _ | '-' :: _ => 1
        | _ => 0
      let digits := (rest.drop sign).takeWhile Char.isDigit
      if (e = 'e' || e = 'E') && !digits.isEmpty then digits.length + sign + 1 else 0
    | [] => 0
  whole.length + fraction + power

def startsNumber : List Char → Bool
  | '.' :: c :: _ => c.isDigit
  | c :: _ => c.isDigit
  | [] => false

/-- How much of a text is shown that does not end. -/
def shownLength : Nat :=
  10

def wordKind (name : String) (rest : List Char) : Kind :=
  if keywords.contains name then .mark name
  else match natives.lookup name with
    | some f => .native f
    | none => if rest.head? = some '(' then .call name else .name name

/-- The next token of a text that begins with no blank: what it is, and what follows it. -/
def nextKind (last : Option Kind) (cs : List Char) : Kind × List Char :=
  match cs with
  | [] => (.finish, [])
  | '\n' :: rest => (.newline, rest)
  | '\x22' :: rest =>
    match textBody rest with
    | some (text, rest) => (.text (unescaped text), rest)
    | none =>
      let start := (rest.takeWhile (· ≠ '\n')).take shownLength
      (.wrong (.openText (String.ofList start)), [])
  | c :: rest =>
    if startsNumber cs then
      let digits := cs.take (numberLength cs)
      match Numeral.leadingReal? digits with
      | some found =>
        match found.value with
        | .infinite _ => (.wrong (.overflow (String.ofList digits)), [])
        | x => (.number x, cs.drop digits.length)
      | none => (.wrong (.character c), [])
    else if isNameStart c then
      let name := cs.takeWhile isNamePart
      (wordKind (String.ofList name) (cs.drop name.length), cs.drop name.length)
    else if c = '/' && !endsOperand last then
      match patternBody false rest with
      | some (text, rest) => (.pattern text, rest)
      | none =>
        let start := (rest.takeWhile (· ≠ '\n')).take shownLength
        (.wrong (.openPattern (String.ofList start)), [])
    else match operators.find? fun op => op.toList.isPrefixOf cs with
      | some op => (.mark op, cs.drop op.length)
      | none => (.wrong (.character c), [])

/-- What separates tokens: blanks, comments, and ends of lines after a backslash. -/
def skipBlanks : List Char → List Char
  | [] => []
  | '\\' :: '\n' :: rest => skipBlanks rest
  | '\\' :: '\r' :: '\n' :: rest => skipBlanks rest
  | c :: rest =>
    if c = ' ' || c = '\t' || c = '\r' || c = '\x0c' then skipBlanks rest
    else if c = '#' then rest.dropWhile (· ≠ '\n')
    else c :: rest

def lineCount (cs : List Char) : Nat :=
  (cs.filter (· = '\n')).length

/-- How many parentheses are open after a token. -/
def nextDepth (depth : Nat) (kind : Kind) : Nat :=
  match kind with
  | .mark "(" => depth + 1
  | .mark ")" => depth - 1
  | _ => depth

/-- A parenthesis that closes none, and a brace likewise, is extra. -/
def checkedKind (depth braces : Nat) (kind : Kind) : Kind :=
  match kind with
  | .mark ")" => if depth = 0 then .wrong (.extra ')') else kind
  | .mark "\x7d" => if braces = 0 then .wrong (.extra '\x7d') else kind
  | kind => kind

def nextBraces (braces : Nat) (kind : Kind) : Nat :=
  match kind with
  | .mark "\x7b" => braces + 1
  | .mark "\x7d" => braces - 1
  | _ => braces

/-- The tokens of a text, with a newline at the end. -/
def tokensFrom : Nat → Option Kind → Nat → Nat → Nat → List Char → List Token
  | 0, _, _, _, _, _ => []
  | fuel + 1, last, line, depth, braces, cs =>
    let here := skipBlanks cs
    let line := line + lineCount (cs.take (cs.length - here.length))
    let (kind, rest) := nextKind last here
    let kind := checkedKind depth braces kind
    let written := here.take (here.length - rest.length)
    let token : Token := ⟨kind, line, String.ofList written, depth⟩
    match kind with
    | .finish | .wrong _ => [token]
    | kind =>
      token :: tokensFrom fuel (some kind) (line + lineCount written) (nextDepth depth kind)
        (nextBraces braces kind) rest

def Token.isMark (t : Token) (text : String) : Bool :=
  match t.kind with
  | .mark m => m = text
  | _ => false

/-- The names of the functions that are defined. -/
def definedNames : List Token → List String
  | [] => []
  | [_] => []
  | t :: next :: rest =>
    let later := definedNames (next :: rest)
    match next.kind with
    | .call n | .name n => if t.isMark "function" then n :: later else later
    | _ => later

/-- Names of functions that are followed by a parenthesis are calls, even after a blank. -/
def withCalls (functions : List String) : List Token → List Token
  | [] => []
  | t :: rest =>
    let isOpen := rest.head?.any (·.isMark "(")
    let kind := match t.kind with
      | .name n => if isOpen && functions.contains n then .call n else t.kind
      | kind => kind
    { t with kind := kind } :: withCalls functions rest

def tokens (cs : List Char) : List Token :=
  let ts := tokensFrom (cs.length + 3) none 1 0 0 (cs ++ ['\n'])
  withCalls (definedNames ts) ts

end Montage.Record
