import Montage.Disk.Basic
import Montage.Text.Alphanumeric
import Montage.Text.Classes
import Montage.Text.Lines

/-!
Environment variables, and the file `.env` that can add to them. A line of it names a variable and
its value; quotes, backslashes and `$` have their usual meaning in a value.
-/

namespace Montage

abbrev Variables := List (String × String)

namespace Variables

/-- Which of the quotes a value is in. -/
inductive Quoting
  | none
  | strong
  | weak
  deriving DecidableEq

/-- Whether the name of a variable is being read, and whether in braces. -/
inductive Naming
  | none
  | bare
  | braced
  deriving DecidableEq

/-- A value in the making. -/
structure Reading where
  quoting : Quoting
  escaped : Bool
  /-- The value has ended; blanks and a comment may follow. -/
  ended : Bool
  naming : Naming
  name : List Char
  output : List Char

def Reading.start : Reading :=
  ⟨.none, false, false, .none, [], []⟩

/-- The value of a name in the environment, where a variable is one text: the name, an equals sign
and the value. A name that is asked for may reach into the value, up to an equals sign there. -/
def held? (known : Variables) (name : List Char) : Option (List Char) :=
  if name.isEmpty then none
  else known.findSome? fun (found, value) =>
    let text := found.toList ++ '=' :: value.toList
    if (name ++ ['=']).isPrefixOf text then some (text.drop (name.length + 1)) else none

/-- The value a name stands for: in the environment, or else earlier in the file. -/
def valueOf (known earlier : Variables) (name : List Char) : List Char :=
  (held? known name).getD ((earlier.lookup (String.ofList name)).getD "").toList

namespace Reading

def push (r : Reading) (cs : List Char) : Reading :=
  { r with output := r.output ++ cs }

/-- The name read so far replaced by its value. -/
def substitute (known earlier : Variables) (r : Reading) : Reading :=
  { r.push (valueOf known earlier r.name) with name := [] }

def escapedChar? : Char → Option Char
  | 'n' => some '\n'
  | c => if c = '\\' ∨ c = '\x27' ∨ c = '\x22' ∨ c = '$' ∨ c = ' ' then some c else none

/-- One character while a name is being read. -/
def nameChar (known earlier : Variables) (r : Reading) (c : Char) : Reading :=
  if Text.isAlphanumeric c then { r with name := r.name ++ [c] }
  else if r.naming = .braced then
    if c = '\x7d' then { r.substitute known earlier with naming := .none }
    else { r with name := r.name ++ [c] }
  else if c = '\x7b' ∧ r.name.isEmpty then { r with naming := .braced }
  else
    let r := r.substitute known earlier
    if c = '$' then r else { r.push [c] with naming := .none }

/-- One character outside names. -/
def plainChar (r : Reading) (c : Char) : Reading :=
  if c = '$' then { r with naming := .bare }
  else if r.quoting = .weak then
    if c = '\x22' then { r with quoting := .none }
    else if c = '\\' then { r with escaped := true }
    else r.push [c]
  else if c = '\x27' then { r with quoting := .strong }
  else if c = '\x22' then { r with quoting := .weak }
  else if c = '\\' then { r with escaped := true }
  else if c = ' ' ∨ c = '\t' then { r with ended := true }
  else r.push [c]

/-- All characters of a value; nothing when it is written wrongly. -/
def readAll? (known earlier : Variables) (r : Reading) : List Char → Option Reading
  | [] => some r
  | c :: rest =>
    if r.ended then
      if c = ' ' ∨ c = '\t' then readAll? known earlier r rest
      else if c = '#' then some r
      else none
    else if r.escaped then
      match escapedChar? c with
      | some c => readAll? known earlier { r.push [c] with escaped := false } rest
      | none => none
    else if r.quoting = .strong then
      readAll? known earlier
        (if c = '\x27' then { r with quoting := .none } else r.push [c]) rest
    else if r.naming = .none then readAll? known earlier (r.plainChar c) rest
    else readAll? known earlier (r.nameChar known earlier c) rest

end Reading

def value? (known earlier : Variables) (cs : List Char) : Option String := do
  let r ← Reading.readAll? known earlier .start cs
  if r.naming = .braced ∨ r.quoting ≠ .none then none
  else some (String.ofList (r.substitute known earlier).output)

def isNameStart (c : Char) : Bool :=
  c.isAlpha || c = '_'

def isNameChar (c : Char) : Bool :=
  c.isAlphanum || c = '_' || c = '.'

/-- A name and the rest without blanks in front. -/
def name? : List Char → Option (List Char × List Char)
  | [] => none
  | c :: rest =>
    if isNameStart c then
      some (c :: rest.takeWhile isNameChar, Text.trimLeft (rest.dropWhile isNameChar))
    else none

/-- What follows an equals sign. -/
def afterEquals? : List Char → Option (List Char)
  | '=' :: rest => some (Text.trimLeft rest)
  | _ => none

/-- The variable of a line, which `export` may introduce. -/
def assignment? (cs : List Char) : Option (String × List Char) := do
  let (name, rest) ← name? cs
  match afterEquals? rest with
  | some value => some (String.ofList name, value)
  | none =>
    if name = "export".toList then
      let (name, rest) ← name? rest
      some (String.ofList name, ← afterEquals? rest)
    else none

def isSilent (cs : List Char) : Bool :=
  cs.isEmpty || cs.head? = some '#'

/-- No variable can hold the character that ends texts elsewhere. -/
def canHold (value : String) : Bool :=
  value.toList.all (· ≠ Char.ofNat 0)

/-- The variables with those of the lines, up to the first line that is written wrongly. What is set
already stays. Nothing when a value has to be set that no variable can hold. -/
def addLines? (known earlier : Variables) : List (List Char) → Option Variables
  | [] => some known
  | line :: rest =>
    let cs := Text.trimLeft (Text.trimRight line)
    if isSilent cs then addLines? known earlier rest
    else
      let read := do
        let (name, cs) ← assignment? cs
        some (name, ← if isSilent cs then some "" else value? known earlier cs)
      match read with
      | none => some known
      | some (name, value) =>
        let earlier := (name, value) :: earlier
        if (held? known name.toList).isSome then addLines? known earlier rest
        else if canHold value then addLines? ((name, value) :: known) earlier rest
        else none

/-- The nearest file `.env` in a directory or above it. -/
def fileAbove? (disk : Disk) : Nat → Place → Option Text.Bytes
  | 0, _ => none
  | levels + 1, place =>
    match disk.find? (place ++ [".env"]) with
    | some (.file content) => some content.bytes
    | _ => fileAbove? disk levels place.dropLast

/-- The variables with what the nearest file `.env` adds. -/
def withFile? (disk : Disk) (bindings : Variables) : Option Variables :=
  let place := disk.workingDirectory
  match (fileAbove? disk (place.length + 1) place).bind Text.decode? with
  | none => some bindings
  | some text => addLines? bindings [] (Text.lines text.toList)

end Variables

end Montage
