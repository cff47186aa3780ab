import Montage.Shell.Command

/-!
The state in which a script is read. Its characters come one after another, and the text that another
name for a command stands for is put in the place of the name.
-/

namespace Montage.Shell

/-- What is wrong with a script, and in which line. -/
structure SyntaxError where
  line : Nat
  message : String

inductive Token
  | word
  | keyword (text : String)
  | operator (text : String)
  /-- An operator that redirects a stream; without a number, its usual one. -/
  | redirect (stream : Option Nat) (op : String)
  | newline
  | finish
  deriving DecidableEq

def inQuotes (text : String) : String :=
  "\x22" ++ text ++ "\x22"

def Token.describe : Token → String
  | word => "word"
  | keyword text | operator text => inQuotes text
  | redirect .. => "redirection"
  | newline => "newline"
  | finish => "end of file"

/-- A text that has been put in the place of a name, as far as it has not been read yet. -/
structure Insertion where
  name : String
  left : List Char
  /-- The word after it is looked up too. -/
  endsInBlank : Bool

/-- Lines that a redirection waits for. They end before a line that is just the mark. -/
structure Awaited where
  number : Nat
  mark : List Char
  /-- Nothing in the lines stands for something else. -/
  isPlain : Bool
  /-- Tabs in front of a line do not count. -/
  dropsTabs : Bool

structure Reader where
  /-- The texts put in the place of names, the innermost first. -/
  insertions : List Insertion
  left : List Char
  line : Nat
  /-- The names whose texts ended right before what comes next. -/
  ended : List String
  /-- Whether one of those texts wants the next word looked up. -/
  looksUp : Bool
  /-- Other names for commands. -/
  aliases : List (String × String)
  /-- Those of them that are being read around this script. -/
  busy : List String
  /-- The latest token, and whether it is to be read once more. -/
  last : Token
  isHeld : Bool
  /-- The latest word. -/
  word : Word
  isQuoted : Bool
  awaited : List Awaited
  /-- The lines that redirections have got, by numbers. -/
  documents : List (Nat × Word)
  documentCount : Nat

namespace Reader

def start (aliases : List (String × String)) (documentCount : Nat) (text : List Char) : Reader :=
  { insertions := []
    left := text
    line := 1
    ended := []
    looksUp := false
    aliases := aliases
    busy := []
    last := .newline
    isHeld := false
    word := []
    isQuoted := false
    awaited := []
    documents := []
    documentCount := documentCount }

/-- The names whose texts are being read; they do not stand for something else inside these. -/
def namesInUse (r : Reader) : List String :=
  r.insertions.map (·.name) ++ r.ended ++ r.busy

/-- Goes on behind the texts that have been read to their end. -/
def settle (r : Reader) : Reader :=
  let spent := r.insertions.takeWhile (·.left.isEmpty)
  { r with
    insertions := r.insertions.drop spent.length
    ended := spent.map (·.name)
    looksUp := r.looksUp || spent.any (·.endsInBlank) }

/-- What is left of the innermost text. -/
def here (r : Reader) : List Char :=
  match r.insertions with
  | [] => r.left
  | top :: _ => top.left

def setHere (r : Reader) (cs : List Char) : Reader :=
  match r.insertions with
  | [] => { r with left := cs }
  | top :: rest => { r with insertions := { top with left := cs } :: rest }

/-- A backslash at the end of a line joins it to the next one. -/
def dropJoins : List Char → Nat → List Char × Nat
  | '\\' :: '\n' :: rest, lines => dropJoins rest (lines + 1)
  | cs, lines => (cs, lines)

def joined (r : Reader) : Reader :=
  match r.here with
  | '\\' :: '\n' :: _ =>
    let (cs, line) := dropJoins r.here r.line
    let r := { r.setHere cs with line := line }
    if cs.isEmpty && !r.insertions.isEmpty then r.settle else r
  | _ => r

/-- What is left behind some lines. -/
def linesFrom : Nat → List Char → List Char
  | 0, cs => cs
  | count + 1, cs => linesFrom count ((cs.dropWhile (· ≠ '\n')).drop 1)

/-- Puts a text in the place of the word that has just been read. -/
def insertText (r : Reader) (name text : String) : Reader :=
  if text = "" then r
  else
    let cs := text.toList
    { r with insertions := ⟨name, cs, cs.getLast?.any fun c => c = ' ' || c = '\t'⟩ :: r.insertions }

end Reader

abbrev Reads := StateT Reader (Except SyntaxError)

namespace Reads

def fail {α : Type} (message : String) : Reads α := do
  throw ⟨(← get).line, message⟩

/-- The error that the latest token stands where something else is needed. -/
def unexpected {α : Type} (expected : Option Token) : Reads α := do
  let wanted := match expected with
    | some t => " (expecting " ++ t.describe ++ ")"
    | none => ""
  fail ((← get).last.describe ++ " unexpected" ++ wanted)

/-- The next character as it is written. -/
def peekPlain : Reads (Option Char) :=
  modifyGet fun r =>
    let r := r.settle
    (r.here.head?, r)

/-- The next character, with joined lines taken for one. -/
def peek : Reads (Option Char) :=
  modifyGet fun r =>
    let r := r.settle.joined
    (r.here.head?, r)

/-- The character after the next one. -/
def peekSecond : Reads (Option Char) := do
  let r ← get
  pure (Reader.dropJoins (r.here.drop 1) 0).1.head?

/-- Goes on behind the next character. -/
def skip : Reads Unit :=
  modify fun r =>
    match r.here with
    | [] => r
    | c :: rest => { r.setHere rest with line := if c = '\n' then r.line + 1 else r.line }

/-- The same for a character that makes no sense where it stands: it ends no line either. -/
def skipSign : Reads Unit :=
  modify fun r => r.setHere (r.here.drop 1)

/-- Goes on behind the next character if it is this one. -/
def skipIf (c : Char) : Reads Bool := do
  if (← peek) = some c then
    skip
    pure true
  else pure false

/-- The characters that come next as long as they are of some kind. -/
def takeWhile (p : Char → Bool) : Nat → List Char → Reads (List Char)
  | 0, taken => pure taken.reverse
  | fuel + 1, taken => do
    match ← peek with
    | some c =>
      if p c then
        skip
        takeWhile p fuel (c :: taken)
      else pure taken.reverse
    | none => pure taken.reverse

end Reads

end Montage.Shell
