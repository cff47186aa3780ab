import Montage.Shell.Word

/-!
Cutting a script into words and operators, one token at a time.
-/

namespace Montage.Shell

/-- What is looked for in the next token. -/
structure Lookout where
  /-- Ends of lines in front of it are left out. -/
  skipsNewlines : Bool
  keywords : Bool
  aliases : Bool
  /-- It ends a document. -/
  isMark : Bool

namespace Lookout

def nothing : Lookout :=
  ⟨false, false, false, false⟩

/-- A command begins in this line. -/
def command : Lookout :=
  ⟨false, true, true, false⟩

/-- A command or a keyword comes next, maybe in another line. -/
def commandBelow : Lookout :=
  ⟨true, true, true, false⟩

end Lookout

/-- Blanks, comments and joined lines in front of a token. -/
def skipBlanks : Nat → Reads Unit
  | 0 => pure ()
  | fuel + 1 => do
    match ← Reads.peek with
    | some '#' =>
      skipComment fuel
      skipBlanks fuel
    | some c =>
      if isBlank c then
        Reads.skip
        skipBlanks fuel
    | none => pure ()
where
  skipComment : Nat → Reads Unit
    | 0 => pure ()
    | fuel + 1 => do
      match ← Reads.peekPlain with
      | none | some '\n' => pure ()
      | some _ =>
        Reads.skip
        skipComment fuel

/-- The operators that are one character, or that character twice. -/
def operatorAt (c : Char) : Reads Token := do
  Reads.skip
  let doubled ← if c = '(' || c = ')' then pure false else Reads.skipIf c
  pure (.operator (String.ofList (if doubled then [c, c] else [c])))

/-- The operator that redirects a stream and begins with a character. -/
def redirectAt (stream : Option Nat) (c : Char) : Reads Token := do
  Reads.skip
  let second ← Reads.peek
  let follows : List Char := if c = '>' then ['>', '|', '&'] else ['<', '&', '>']
  let op ← match second.filter follows.contains with
    | none => pure [c]
    | some d =>
      Reads.skip
      let dropsTabs ← if c = '<' ∧ d = '<' then Reads.skipIf '-' else pure false
      pure (if dropsTabs then [c, d, '-'] else [c, d])
  pure (.redirect stream (String.ofList op))

/-- A word, or a redirection with the number of its stream right before it. -/
def wordAt (script : ScriptReader) (isMark : Bool) (fuel : Nat) : Reads Token := do
  readWord script (if isMark then .mark else .word) fuel
  let r ← get
  match r.here.head?.filter fun c => c = '<' || c = '>' with
  | none => pure .word
  | some c =>
    match r.word with
    | [] => if r.isQuoted then pure .word else redirectAt none c
    | [.text [d] false] =>
      if d.isDigit && !r.isQuoted then redirectAt (some (d.toNat - 48)) c else pure .word
    | _ => pure .word

/-- The next token by its characters alone. -/
def plainToken (script : ScriptReader) (isMark : Bool) (fuel : Nat) : Reads Token := do
  if (← get).isHeld then
    modify fun r => { r with isHeld := false }
    pure (← get).last
  else
    skipBlanks fuel
    let token ← match ← Reads.peek with
      | none => pure .finish
      | some c =>
        if c = '\n' then do
          Reads.skip
          pure .newline
        else if c = '&' || c = '|' || c = ';' || c = '(' || c = ')' then operatorAt c
        else wordAt script isMark fuel
    modify fun r => { r with last := token }
    pure token

/-- The lines that redirections wait for, which come next. -/
def readAwaited (script : ScriptReader) (fuel : Nat) : Reads Unit := do
  let awaited := (← get).awaited
  modify fun r => { r with awaited := [] }
  for a in awaited do
    let body ← readLines script (some a.mark) a.isPlain a.dropsTabs fuel
    modify fun r => { r with documents := (a.number, body) :: r.documents }

/-- The ends of lines after one that has been read, with the lines that redirections wait for. -/
def tokenBelow (script : ScriptReader) : Nat → Reads Token
  | 0 => pure .finish
  | fuel + 1 => do
    readAwaited script fuel
    modify fun r => { r with looksUp := false }
    let token ← plainToken script false fuel
    if token = .newline then tokenBelow script fuel else pure token

/-- The next token. A name that stands for something else is replaced by that. -/
def nextToken (script : ScriptReader) (look : Lookout) : Nat → Reads Token
  | 0 => pure .finish
  | fuel + 1 => do
    modify fun r => { r with looksUp := false }
    let token ← plainToken script look.isMark fuel
    let token ← if look.skipsNewlines && token = .newline then tokenBelow script fuel
      else pure token
    let r ← get
    let look := { look with aliases := look.aliases || r.looksUp }
    match if token = .word && !r.isQuoted then plain? r.word else none with
    | none => pure token
    | some text =>
      if look.keywords && keywords.contains text then
        modify fun r => { r with last := .keyword text }
        pure (.keyword text)
      else match if look.aliases then r.aliases.lookup text else none with
        | none => pure token
        | some other =>
          if r.namesInUse.contains text then pure token
          else
            set (r.insertText text other)
            nextToken script look fuel

/-- The latest token is read once more. -/
def hold : Reads Unit :=
  modify fun r => { r with isHeld := true }

end Montage.Shell
