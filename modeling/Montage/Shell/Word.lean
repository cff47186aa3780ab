import Montage.Shell.Command
import Montage.Shell.Reader

/-!
Reading words: quotes, values in braces, sums, and scripts inside words. The lines that a redirection
takes from the script are read in the same way.
-/

namespace Montage.Shell

/-- How characters are taken. -/
inductive Mode
  | bare
  | double
  | single
  /-- Between two double parentheses. -/
  | sum
  deriving DecidableEq

/-- What is open around the next character, as far as it shares a mode. -/
structure Level where
  mode : Mode
  /-- The values in braces that are open, and those of them between double quotes. -/
  braces : Nat
  doubleBraces : Nat
  /-- Double quotes are open inside the braces. -/
  innerQuote : Bool
  parentheses : Nat
  /-- The level ends with its last brace. -/
  endsAtBrace : Bool

namespace Level

def begin (mode : Mode) (endsAtBrace : Bool) : Level :=
  ⟨mode, 0, 0, false, 0, endsAtBrace⟩

def isDouble (l : Level) : Bool :=
  l.mode = .double || l.mode = .sum

end Level

/-- An open part of a word: the parts before it, the latest first, and what becomes of the parts
inside it. -/
structure Hole where
  before : Word
  fill : Word → Piece Script

/-- A word in the making. -/
structure Draft where
  level : Level
  outer : List Level
  holes : List Hole
  /-- The parts in the innermost hole, the latest first. -/
  pieces : Word
  isQuoted : Bool
  /-- The word was closed by a brace too much, and what follows it is lost. -/
  isCut : Bool

namespace Draft

def begin (mode : Mode) : Draft :=
  ⟨.begin mode false, [], [], [], false, false⟩

def add (d : Draft) (piece : Piece Script) : Draft :=
  if d.isCut then d else { d with pieces := piece :: d.pieces }

/-- A character that stands for itself. -/
def letter (d : Draft) (c : Char) : Draft :=
  d.add (.text [c] (d.level.mode ≠ .bare))

def quotedText (d : Draft) (cs : List Char) : Draft :=
  { d.add (.text cs true) with isQuoted := true }

def setMode (d : Draft) (mode : Mode) : Draft :=
  { d with level := { d.level with mode := mode } }

def openHole (d : Draft) (fill : Word → Piece Script) : Draft :=
  { d with holes := ⟨d.pieces, fill⟩ :: d.holes, pieces := [] }

def closeHole (d : Draft) : Draft :=
  match d.holes with
  | [] => { d with isCut := true }
  | hole :: rest =>
    if d.isCut then { d with holes := rest, pieces := hole.before }
    else { d with holes := rest, pieces := hole.fill d.pieces.reverse :: hole.before }

def push (d : Draft) (level : Level) : Draft :=
  { d with level := level, outer := d.level :: d.outer }

def pop (d : Draft) : Draft :=
  match d.outer with
  | [] => d
  | level :: rest => { d with level := level, outer := rest }

/-- Double quotes inside braces change between open and closed. -/
def turnQuote (d : Draft) : Draft :=
  let turned := if d.level.braces = 0 then d.level.innerQuote else !d.level.innerQuote
  { d with level := { d.level with innerQuote := turned } }

/-- A mark that something was quoted, even if it is empty. -/
def markQuote (d : Draft) : Draft :=
  d.add (.text [] true)

/-- All arguments alone between quotes are no words if there are no arguments. -/
def dropMark (d : Draft) : Draft :=
  match d.pieces with
  | .value "@" .plain word true :: .text [] true :: before =>
    { d with pieces := .value "@" .plain word true :: before }
  | _ => d

/-- A word in braces begins; in a pattern quotes count anew. -/
def openBraces (d : Draft) (isPattern : Bool) : Draft :=
  let mode := if isPattern then .bare
    else if d.level.mode = .sum then .double
    else d.level.mode
  let d := if mode ≠ d.level.mode || d.level.innerQuote then d.push (.begin mode true) else d
  let doubleBraces := if d.level.isDouble then d.level.doubleBraces + 1 else d.level.doubleBraces
  { d with level := { d.level with braces := d.level.braces + 1, doubleBraces := doubleBraces } }

def closeBraces (d : Draft) : Draft :=
  let level := { d.level with braces := d.level.braces - 1 }
  let d := if level.braces = 0 && level.endsAtBrace then d.pop
    else { d with level := { level with doubleBraces := level.doubleBraces - 1 } }
  d.closeHole

def openSum (d : Draft) (quoted : Bool) : Draft :=
  (d.openHole fun word => .result word quoted).push (.begin .sum false)

end Draft

/-- What is read as one word. -/
inductive Extent
  | word
  /-- The word that ends a document; in it a dollar sign stands for itself. -/
  | mark
  /-- The lines up to one that is just the mark; without a mark, all lines. -/
  | document (mark : Option (List Char)) (dropsTabs : Bool)

namespace Extent

def isDocument : Extent → Bool
  | document .. => true
  | _ => false

def isMark : Extent → Bool
  | mark => true
  | _ => false

end Extent

/-! ### Scripts inside words -/

/-- Reads the commands inside a word. -/
abbrev ScriptReader := Reads Script

/-- What redirections still wait for at the end of a script stays empty. -/
def endAwaited (r : Reader) : Reader :=
  { r with awaited := [], documents := r.awaited.map (·.number, []) ++ r.documents }

/-- A script inside parentheses. -/
def enclosedScript (script : ScriptReader) : ScriptReader := do
  let awaited := (← get).awaited
  modify fun r => { r with awaited := [] }
  let body ← script
  if (← get).last = .operator ")" then
    modify fun r => { endAwaited r with awaited := awaited, isHeld := false }
    pure body
  else Reads.unexpected (some (.operator ")"))

/-- The text up to the next backquote. -/
def backquotedText (isDouble : Bool) : Nat → List Char → Reads (List Char)
  | 0, taken => pure taken.reverse
  | fuel + 1, taken => do
    match ← Reads.peek with
    | none => Reads.fail "EOF in backquote substitution"
    | some '\x60' =>
      Reads.skip
      pure taken.reverse
    | some '\\' =>
      Reads.skip
      match ← Reads.peekPlain with
      | none => backquotedText isDouble fuel ('\\' :: taken)
      | some c =>
        Reads.skip
        let isEscape := c = '\\' || c = '\x60' || c = '$' || (isDouble && c = '\x22')
        backquotedText isDouble fuel (if isEscape then c :: taken else c :: '\\' :: taken)
    | some c =>
      Reads.skip
      backquotedText isDouble fuel (c :: taken)

/-- A script between backquotes is a text of its own, whose lines are counted anew. What follows a
word that ends its commands does not count. -/
def backquotedScript (script : ScriptReader) (isDouble : Bool) (fuel : Nat) : ScriptReader := do
  let text ← backquotedText isDouble fuel []
  let r ← get
  let inner := { Reader.start r.aliases r.documentCount text with
    busy := r.namesInUse
    documents := r.documents }
  let (body, inner) ← script inner
  let inner := endAwaited inner
  set { r with documents := inner.documents, documentCount := inner.documentCount }
  pure body

/-! ### Parameters -/

/-- What a dollar sign stands for. -/
inductive Parameter
  | whole (name : String)
  /-- A word follows, up to a brace. Without a use, the braces make no sense. -/
  | withWord (use : Option (String × Use))
  /-- The value alone, although the brace after it closes nothing. -/
  | unclosed (name : String)

/-- What is done with a value for which a word may stand. -/
def use? (emptyToo : Bool) : Char → Option Use
  | '-' => some (.otherwise emptyToo)
  | '=' => some (.assign emptyToo)
  | '+' => some (.instead emptyToo)
  | '?' => some (.demand emptyToo)
  | _ => none

/-- What stands after a name in braces. A character that makes no sense there is lost. -/
def parameterUse (name : String) : Reads Parameter := do
  let withWord (use : Option Use) : Parameter := .withWord (use.map (name, ·))
  match ← Reads.peek with
  | none => pure (.withWord none)
  | some c =>
    Reads.skipSign
    match c with
    | '\x7d' => pure (.whole name)
    | '%' => do pure (withWord (some (.cut true (← Reads.skipIf '%'))))
    | '#' => do pure (withWord (some (.cut false (← Reads.skipIf '#'))))
    | ':' =>
      match ← Reads.peek with
      | none => pure (.withWord none)
      | some d =>
        Reads.skipSign
        if d = '\x7d' then pure (.unclosed name) else pure (withWord (use? true d))
    | c => pure (withWord (use? false c))

def parameterName (first : Char) (fuel : Nat) : Reads String := do
  let kind := if first.isDigit then Char.isDigit else isNameChar
  pure (String.ofList (← Reads.takeWhile kind fuel []))

/-- The length of a value, if the braces end behind its name. -/
def lengthOf (name : String) : Reads Parameter := do
  if (← Reads.peek) = some '\x7d' then pure (.withWord (some (name, .length)))
  else pure (.withWord none)

/-- What follows a number sign in braces: it asks for a length, or it is the name itself. -/
def afterNumberSign (fuel : Nat) : Reads Parameter := do
  match ← Reads.peek with
  | none => parameterUse "#"
  | some c =>
    if isNameChar c then lengthOf (← parameterName c fuel)
    else if c ≠ '\x7d' && (← Reads.peekSecond) = some '\x7d' then
      Reads.skipSign
      if isSpecial c then lengthOf (String.ofList [c]) else pure (.withWord none)
    else parameterUse "#"

def parameterInBraces (fuel : Nat) : Reads Parameter := do
  match ← Reads.peek with
  | none => pure (.withWord none)
  | some c =>
    if isNameStart c || c.isDigit then parameterUse (← parameterName c fuel)
    else if c = '\x7d' then pure (.withWord none)
    else
      Reads.skipSign
      if c = '#' then afterNumberSign fuel
      else if isSpecial c then parameterUse (String.ofList [c])
      else pure (.withWord none)

/-- The parameter after a dollar sign, whose first character is known. Without braces a number has
one digit. -/
def parameter (first : Char) (fuel : Nat) : Reads Parameter := do
  if first = '\x7b' then
    Reads.skip
    parameterInBraces fuel
  else if isNameStart first then pure (.whole (← parameterName first fuel))
  else
    Reads.skip
    pure (.whole (String.ofList [first]))

namespace Draft

def addParameter (d : Draft) : Parameter → Draft
  | .whole name => d.add (.value name .plain [] (d.level.mode ≠ .bare))
  | .unclosed name => (d.add (.value name .plain [] (d.level.mode ≠ .bare))).openBraces false
  | .withWord none => (d.openHole fun _ => .nonsense).openBraces false
  | .withWord (some (name, use)) =>
    let quoted : Bool := d.level.mode ≠ .bare
    let isPattern := match use with
      | .cut .. => true
      | _ => false
    (d.openHole fun word => .value name use word quoted).openBraces isPattern

end Draft

/-! ### Single steps -/

/-- What follows a dollar sign. One before anything else stands for itself. -/
def afterDollar (script : ScriptReader) (extent : Extent) (fuel : Nat) (d : Draft) :
    Reads Draft := do
  let quoted : Bool := d.level.mode ≠ .bare
  match ← Reads.peek with
  | none => pure (d.letter '$')
  | some c =>
    if extent.isMark then pure (d.letter '$')
    else if c = '(' then
      Reads.skip
      if ← Reads.skipIf '(' then pure (d.openSum quoted)
      else pure (d.add (.output (← enclosedScript script) quoted))
    else if c = '\x7b' || isNameStart c || isSpecial c then
      pure (d.addParameter (← parameter c fuel))
    else pure (d.letter '$')

/-- What follows a backslash. Between double quotes it is kept before most characters. -/
def afterBackslash (extent : Extent) (d : Draft) : Reads Draft := do
  match ← Reads.peekPlain with
  | none => pure (d.add (.text ['\\'] true))
  | some c =>
    Reads.skip
    let isEscape := c = '\\' || c = '\x60' || c = '$' ||
      (c = '\x22' && (!extent.isDocument || d.level.braces ≠ 0)) ||
      (c = '\x7d' && d.level.braces ≠ 0)
    pure (d.quotedText (if d.level.isDouble && !isEscape then ['\\', c] else [c]))

def afterBackquote (script : ScriptReader) (extent : Extent) (fuel : Nat) (d : Draft) :
    Reads Draft := do
  if extent.isMark then pure (d.letter '\x60')
  else
    let body ← backquotedScript script d.level.isDouble fuel
    pure (d.add (.output body (d.level.mode ≠ .bare)))

/-- A double quote between double quotes closes them, unless they are those of braces around it. -/
def closeQuote (extent : Extent) (d : Draft) : Draft :=
  if extent.isDocument && d.level.braces = 0 then d.letter '\x22'
  else
    let d := { d with isQuoted := true }
    if d.level.doubleBraces = 0 then (d.setMode .bare).turnQuote.dropMark
    else if extent.isDocument then d.turnQuote
    else d.turnQuote.markQuote

/-- A parenthesis that closes: two of them, where none is open, end a sum. -/
def closeParenthesis (d : Draft) : Reads Draft := do
  if d.level.parentheses ≠ 0 then
    pure ({ d with level := { d.level with parentheses := d.level.parentheses - 1 } }.letter ')')
  else if ← Reads.skipIf ')' then pure d.pop.closeHole
  else pure (d.letter ')')

/-- Whether the lines of a document end here, behind the line that is the mark. -/
def endsDocument (mark : Option (List Char)) (dropsTabs : Bool) (d : Draft) : Reads Bool := do
  match mark with
  | none => pure false
  | some mark =>
    let _ ← if d.level.mode = .single then Reads.peekPlain else Reads.peek
    if dropsTabs then
      modify fun r => r.setHere (r.here.dropWhile (· = '\t'))
    let r ← get
    if mark.isPrefixOf r.here && (r.here[mark.length]?.all (· = '\n')) then
      set { r.setHere (r.here.drop (mark.length + 1)) with line := r.line + 1 }
      pure true
    else pure false

/-- What a character does that is not taken for itself everywhere. -/
def takeSign (script : ScriptReader) (extent : Extent) (fuel : Nat) (c : Char) (d : Draft) :
    Reads Draft :=
  match d.level.mode, c with
  | .single, '\x27' =>
    if extent.isDocument && d.level.braces = 0 then pure (d.letter c)
    else pure { d.setMode .bare with isQuoted := true }
  | .single, c => pure (d.letter c)
  | _, '\\' => afterBackslash extent d
  | _, '$' => afterDollar script extent fuel d
  | _, '\x60' => afterBackquote script extent fuel d
  | .bare, '\x27' => pure (d.setMode .single).markQuote
  | .bare, '\x22' => pure (d.setMode .double).turnQuote.markQuote
  | .double, '\x22' => pure (closeQuote extent d)
  | .sum, '(' =>
    pure ({ d with level := { d.level with parentheses := d.level.parentheses + 1 } }.letter c)
  | .sum, ')' => closeParenthesis d
  | _, '\x7d' =>
    if !d.level.innerQuote && d.level.braces ≠ 0 then pure d.closeBraces else pure (d.letter c)
  | _, c => pure (d.letter c)

/-- Takes the next character into a word, unless the word ends before it. -/
def takeNext (script : ScriptReader) (extent : Extent) (fuel : Nat) (d : Draft) :
    Reads (Draft × Bool) := do
  match ← if d.level.mode = .single then Reads.peekPlain else Reads.peek with
  | none => pure (d, false)
  | some c =>
    if d.level.mode = .bare && d.level.braces = 0 && endsWord c then pure (d, false)
    else
      Reads.skip
      let d ← takeSign script extent fuel c d
      match extent, c with
      | .document mark dropsTabs, '\n' => do pure (d, !(← endsDocument mark dropsTabs d))
      | _, _ => pure (d, true)

/-! ### Whole words -/

def takeAll (script : ScriptReader) (extent : Extent) : Nat → Draft → Reads Draft
  | 0, d => pure d
  | fuel + 1, d => do
    let (d, goesOn) ← takeNext script extent fuel d
    if goesOn then takeAll script extent fuel d else pure d

/-- The parts of a word in which all is closed. -/
def finished (extent : Extent) (d : Draft) : Reads Word := do
  if d.level.mode = .sum then Reads.fail "Missing \x27))\x27"
  else if d.level.mode ≠ .bare && !extent.isDocument then
    Reads.fail "Unterminated quoted string"
  else if d.level.braces ≠ 0 then Reads.fail "Missing \x27\x7d\x27"
  else pure d.pieces.reverse

/-- Reads a word up to where it ends. -/
def readWord (script : ScriptReader) (extent : Extent) (fuel : Nat) : Reads Unit := do
  let d ← takeAll script extent fuel (.begin .bare)
  let word ← finished extent d
  modify fun r => { r with word := word, isQuoted := d.isQuoted }

/-- The lines up to a mark. -/
def readLines (script : ScriptReader) (mark : Option (List Char)) (isPlain dropsTabs : Bool)
    (fuel : Nat) : Reads Word := do
  let extent := Extent.document mark dropsTabs
  let d := Draft.begin (if isPlain then .single else .double)
  let d ← if ← endsDocument mark dropsTabs d then pure d else takeAll script extent fuel d
  finished extent d

/-- The characters of a word without its quotes. -/
def charactersOf (w : Word) : List Char :=
  w.flatMap fun
    | .text cs _ => cs
    | _ => []

/-- The text of a word that is written without quotes and values. -/
def plain? (w : Word) : Option String :=
  let part? : Piece Script → Option (List Char)
    | .text cs false => some cs
    | _ => none
  (w.mapM part?).map fun parts => String.ofList parts.flatten

/-- A word that assigns: a name, an equals sign, and the parts after it. -/
def assignment? : Word → Option (String × Word)
  | .text [c] false :: rest =>
    if isNameStart c then
      let isNamePiece : Piece Script → Bool
        | .text [d] false => isNameChar d
        | _ => false
      let name := rest.takeWhile isNamePiece
      match rest.dropWhile isNamePiece with
      | .text ['='] false :: value =>
        (plain? (.text [c] false :: name)).map fun name => (name, value)
      | _ => none
    else none
  | _ => none

end Montage.Shell
