import Montage.Shell.Token

/-!
Reading a script: lines of commands, joined by `|`, `&&` and `||`, with compound commands.
-/

namespace Montage.Shell

/-- How a list of commands ends. -/
inductive Ending
  /-- With its line. -/
  | line
  /-- Before a word that ends a list; there has to be a command. -/
  | body
  /-- The same, but there may be none. -/
  | inner
  deriving DecidableEq

/-- Whether a token ends a list of commands. -/
def Token.endsList : Token → Bool
  | finish => true
  | operator op => op = ")" || op = ";;"
  | keyword text => ["do", "done", "then", "elif", "else", "fi", "esac", "\x7d"].contains text
  | _ => false

/-- The keyword that ends a compound command. -/
def expect (t : Token) (found : Token) : Reads Unit :=
  if found = t then pure () else Reads.unexpected (some t)

/-! ### Redirections -/

/-- The redirection that an operator and the word after it stand for. -/
def redirectOf (stream : Option Nat) (op : String) (word : Word) : Redirect Script :=
  match op with
  | "<" => ⟨stream.getD 0, .file word .read false⟩
  | "<>" => ⟨stream.getD 0, .file word .both false⟩
  | "<&" => ⟨stream.getD 0, .stream word⟩
  | ">&" => ⟨stream.getD 1, .stream word⟩
  | ">>" => ⟨stream.getD 1, .file word .append false⟩
  | op => ⟨stream.getD 1, .file word .write (op = ">|")⟩

/-- The redirection whose operator has just been read. Lines of the script come later. -/
def redirectAfter (script : ScriptReader) (fuel : Nat) (stream : Option Nat) (op : String) :
    Reads (Redirect Script) := do
  let isDocument := op = "<<" || op = "<<-"
  let token ← nextToken script { Lookout.nothing with isMark := isDocument } fuel
  if token ≠ .word then Reads.unexpected none
  else
    let r ← get
    if isDocument then
      let number := r.documentCount
      let a : Awaited := ⟨number, charactersOf r.word, r.isQuoted, op = "<<-"⟩
      set { r with awaited := r.awaited ++ [a], documentCount := number + 1 }
      pure ⟨stream.getD 0, .document number⟩
    else pure (redirectOf stream op r.word)

/-- The redirections that follow a compound command. -/
def redirectsAfter (script : ScriptReader) : Nat → List (Redirect Script) → Reads Redirects
  | 0, found => pure found.reverse
  | fuel + 1, found => do
    match ← nextToken script (if found.isEmpty then .command else .nothing) fuel with
    | .redirect stream op => do
      redirectsAfter script fuel ((← redirectAfter script fuel stream op) :: found)
    | _ =>
      hold
      pure found.reverse

/-! ### Simple commands -/

/-- A simple command in the making, the latest parts first. -/
structure Parts where
  assigned : List (String × Word)
  words : List Word
  redirects : List (Redirect Script)

namespace Parts

def command (p : Parts) (line : Nat) : Command :=
  .simple line p.assigned.reverse p.words.reverse p.redirects.reverse

/-- A word; in front of all others it may assign. -/
def addWord (p : Parts) (word : Word) : Parts :=
  match if p.words.isEmpty then assignment? word else none with
  | some binding => { p with assigned := binding :: p.assigned }
  | none => { p with words := word :: p.words }

/-- The word that parentheses may follow, which make it the name of a function. -/
def definedName? (p : Parts) : Option Word :=
  match p with
  | ⟨[], [word], []⟩ => some word
  | _ => none

end Parts

/-- What a name in front of parentheses defines. -/
def functionName (word : Word) : Reads String :=
  match (plain? word).filter fun name => isName name && !specialNames.contains name with
  | some name => pure name
  | none => Reads.fail "Bad function name"

/-- A simple command, or the definition of a function, whose body `command` reads. -/
def simpleCommand (script : ScriptReader) (command : Reads Command) (line : Nat) :
    Nat → Parts → Reads Command
  | 0, p => pure (p.command line)
  | fuel + 1, p => do
    let look := { Lookout.nothing with aliases := p.words.isEmpty }
    match ← nextToken script look fuel, p.definedName? with
    | .word, _ => simpleCommand script command line fuel (p.addWord (← get).word)
    | .redirect stream op, _ =>
      let target ← redirectAfter script fuel stream op
      simpleCommand script command line fuel { p with redirects := target :: p.redirects }
    | .operator "(", some word =>
      expect (.operator ")") (← nextToken script .nothing fuel)
      let name ← functionName word
      pure (.define name (← command))
    | _, _ =>
      hold
      pure (p.command line)

/-! ### Lists of words -/

/-- The words that a loop runs through, up to the end of a line or a semicolon. -/
def loopWords (script : ScriptReader) : Nat → List Word → Reads (List Word)
  | 0, found => pure found.reverse
  | fuel + 1, found => do
    match ← nextToken script .nothing fuel with
    | .word => loopWords script fuel ((← get).word :: found)
    | .newline | .operator ";" => pure found.reverse
    | _ => Reads.unexpected none

/-- The patterns of a branch, apart by bars, up to the closing parenthesis. -/
def patterns (script : ScriptReader) : Nat → List Word → Reads (List Word)
  | 0, found => pure found.reverse
  | fuel + 1, found => do
    let found := (← get).word :: found
    match ← nextToken script .nothing fuel with
    | .operator "|" =>
      let _ ← nextToken script .nothing fuel
      patterns script fuel found
    | .operator ")" => pure found.reverse
    | _ => Reads.unexpected (some (.operator ")"))

/-! ### Commands -/

mutual

/-- Commands up to where their list ends. -/
def commands (fuel : Nat) (ending : Ending) (mayEnd : Bool) (found : List Command) :
    Reads Script :=
  match fuel with
  | 0 => Reads.unexpected none
  | fuel + 1 => do
    let script := commands fuel .inner true []
    let look := if ending = .line then Lookout.command else .commandBelow
    let token ← nextToken script look fuel
    if token = .newline then
      readAwaited script fuel
      pure found.reverse
    else
      hold
      if token = .finish then
        readAwaited script fuel
        pure found.reverse
      else if mayEnd && ending ≠ .line && token.endsList then pure found.reverse
      else
        let first ← chain fuel .nothing
        let token ← nextToken script .nothing fuel
        let found := (if token = .operator "&" then .background first else first) :: found
        if token = .operator "&" || token = .operator ";" then commands fuel ending true found
        else
          hold
          if token = .newline then commands fuel ending true found
          else if token = .finish then
            readAwaited script fuel
            pure found.reverse
          else if ending = .line then Reads.unexpected none
          else pure found.reverse

/-- Pipelines joined by `&&` and `||`. -/
def chain (fuel : Nat) (look : Lookout) : Reads Command :=
  match fuel with
  | 0 => Reads.unexpected none
  | fuel + 1 => do links fuel (← pipeline fuel look)

/-- The pipelines that follow one, from the left. -/
def links (fuel : Nat) (first : Command) : Reads Command :=
  match fuel with
  | 0 => Reads.unexpected none
  | fuel + 1 => do
    match ← nextToken (commands fuel .inner true []) .nothing fuel with
    | .operator "&&" => do links fuel (.both first (← pipeline fuel .commandBelow))
    | .operator "||" => do links fuel (.either first (← pipeline fuel .commandBelow))
    | _ =>
      hold
      pure first

/-- Commands joined by `|`, which may be negated together. -/
def pipeline (fuel : Nat) (look : Lookout) : Reads Command :=
  match fuel with
  | 0 => Reads.unexpected none
  | fuel + 1 => do
    let negated := (← nextToken (commands fuel .inner true []) look fuel) = .keyword "!"
    if !negated then hold
    let first ← command fuel (if negated then .command else .nothing)
    let all ← stages fuel [first]
    let joint := match all with
      | [only] => only
      | all => .pipeline all
    pure (if negated then .negate joint else joint)

/-- The commands that follow a bar, with those before them. -/
def stages (fuel : Nat) (found : List Command) : Reads (List Command) :=
  match fuel with
  | 0 => Reads.unexpected none
  | fuel + 1 => do
    let token ← nextToken (commands fuel .inner true []) .nothing fuel
    if token = .operator "|" then stages fuel ((← command fuel .commandBelow) :: found)
    else
      hold
      pure found.reverse

def command (fuel : Nat) (look : Lookout) : Reads Command :=
  match fuel with
  | 0 => Reads.unexpected none
  | fuel + 1 => do
    let script := commands fuel .inner true []
    let line := (← get).line
    match ← nextToken script look fuel with
    | .word | .redirect .. =>
      hold
      simpleCommand script (command fuel .commandBelow) (← get).line fuel ⟨[], [], []⟩
    | .operator "(" =>
      let body ← commands fuel .body false []
      expect (.operator ")") (← nextToken script .nothing fuel)
      pure (.subshell line body (← redirectsAfter script fuel []))
    | .keyword "\x7b" =>
      let body ← commands fuel .body false []
      expect (.keyword "\x7d") (← nextToken script .nothing fuel)
      closed fuel line (.group body)
    | .keyword "if" => do
      let inner ← conditional fuel
      expect (.keyword "fi") (← nextToken script .nothing fuel)
      closed fuel line inner
    | .keyword "while" => do
      let (condition, body) ← loop fuel
      closed fuel line (.repeat_ true condition body)
    | .keyword "until" => do
      let (condition, body) ← loop fuel
      closed fuel line (.repeat_ false condition body)
    | .keyword "for" => do closed fuel line (← forLoop fuel line)
    | .keyword "case" => do closed fuel line (← choice fuel line)
    | _ => Reads.unexpected none

/-- A compound command with the redirections that follow it. -/
def closed (fuel : Nat) (line : Nat) (inner : Command) : Reads Command :=
  match fuel with
  | 0 => Reads.unexpected none
  | fuel + 1 => do
    let redirects ← redirectsAfter (commands fuel .inner true []) fuel []
    pure (if redirects.isEmpty then inner else .redirected line inner redirects)

/-- A condition and what is done then, up to the word that ends the command. -/
def conditional (fuel : Nat) : Reads Command :=
  match fuel with
  | 0 => Reads.unexpected none
  | fuel + 1 => do
    let script := commands fuel .inner true []
    let condition ← commands fuel .body false []
    expect (.keyword "then") (← nextToken script .nothing fuel)
    let onTrue ← commands fuel .body false []
    match ← nextToken script .nothing fuel with
    | .keyword "elif" => do pure (.branch condition onTrue [← conditional fuel])
    | .keyword "else" => do pure (.branch condition onTrue (← commands fuel .body false []))
    | _ =>
      hold
      pure (.branch condition onTrue [])

/-- The condition and the body of a loop. -/
def loop (fuel : Nat) : Reads (Script × Script) :=
  match fuel with
  | 0 => Reads.unexpected none
  | fuel + 1 => do
    let script := commands fuel .inner true []
    let condition ← commands fuel .body false []
    expect (.keyword "do") (← nextToken script .nothing fuel)
    let body ← commands fuel .body false []
    expect (.keyword "done") (← nextToken script .nothing fuel)
    pure (condition, body)

def forLoop (fuel : Nat) (line : Nat) : Reads Command :=
  match fuel with
  | 0 => Reads.unexpected none
  | fuel + 1 => do
    let script := commands fuel .inner true []
    let token ← nextToken script .nothing fuel
    let r ← get
    match if token = .word then (plain? r.word).filter isName else none with
    | none => Reads.fail "Bad for loop variable"
    | some name =>
      let items ← match ← nextToken script .commandBelow fuel with
        | .keyword "in" => do pure (some (← loopWords script fuel []))
        | .operator ";" => pure none
        | _ => do
          hold
          pure none
      expect (.keyword "do") (← nextToken script .commandBelow fuel)
      let body ← commands fuel .body false []
      expect (.keyword "done") (← nextToken script .nothing fuel)
      pure (.forEach line name items body)

def choice (fuel : Nat) (line : Nat) : Reads Command :=
  match fuel with
  | 0 => Reads.unexpected none
  | fuel + 1 => do
    let script := commands fuel .inner true []
    expect .word (← nextToken script .nothing fuel)
    let subject := (← get).word
    expect (.keyword "in") (← nextToken script .commandBelow fuel)
    pure (.choose line subject (← branches fuel []))

/-- The branches of a choice; the latest come first in those that were found. -/
def branches (fuel : Nat) (found : List (List Word × Script)) :
    Reads (List (List Word × Script)) :=
  match fuel with
  | 0 => Reads.unexpected none
  | fuel + 1 => do
    let script := commands fuel .inner true []
    let look : Lookout := ⟨true, true, false, false⟩
    let token ← nextToken script look fuel
    if token = .keyword "esac" then pure found.reverse
    else
      if token = .operator "(" then
        let _ ← nextToken script .nothing fuel
      let fitting ← patterns script fuel []
      let body ← commands fuel .inner true []
      let found := (fitting, body) :: found
      match ← nextToken script look fuel with
      | .keyword "esac" => pure found.reverse
      | .operator ";;" => branches fuel found
      | _ => Reads.unexpected (some (.operator ";;"))

end

/-! ### Lines -/

/-- How many steps reading a script may take. -/
def readingLimit (aliases : List (String × String)) (length : Nat) : Nat :=
  let inserted := (aliases.map fun (_, text) => text.length + 1).foldr (· + ·) 0
  64 * (length + 16) * (inserted + 1)

/-- The commands of the next line, which may go on for several; none at the end of the script. -/
def readCommandLine (fuel : Nat) : Reads (Option Script) := do
  modify fun r => { r with isHeld := false, awaited := [] }
  let body ← commands fuel .line false []
  pure (if body.isEmpty && (← get).last = .finish then none else some body)

/-- A text in which only values are looked for. -/
def readText (r : Reader) : Except SyntaxError Word := do
  let fuel := readingLimit r.aliases r.left.length
  let (word, _) ← (readLines (commands fuel .inner true []) none false false fuel).run r
  pure word

end Montage.Shell
