import Montage.Shell.Arithmetic
import Montage.Shell.Command
import Montage.Shell.Pattern
import Montage.Shell.State

/-!
What words stand for: values take the place of their names, unquoted values are split, and patterns
become the names of files.
-/

namespace Montage.Shell

/-- A part of a word after its value is known. -/
inductive Part
  | text (cs : List Char) (quoted : Bool)
  /-- A value that is split into fields. -/
  | value (cs : List Char)
  /-- All arguments, each a field of its own. -/
  | each (items : List String)
  /-- All arguments, each split once more. -/
  | eachSplit (items : List String)

namespace Part

def chars : Part → List Char
  | text cs _ | value cs => cs
  | each items | eachSplit items => (" ".intercalate items).toList

/-- The characters as those of a pattern. -/
def marked : Part → List Marked
  | text cs quoted => cs.map (·, quoted)
  | value cs => unmarked cs
  | each items => (" ".intercalate items).toList.map (·, true)
  | eachSplit items => unmarked (" ".intercalate items).toList

/-- A literal text in a place where values are split. -/
def unquoted : Part → Part
  | text cs false => value cs
  | part => part

/-- The number of characters, with one between each two arguments. -/
def length : Part → Nat
  | text cs _ | value cs => cs.length
  | each items | eachSplit items => (" ".intercalate items).length

/-- What is left when a pattern is cut off. -/
def cut (pattern : Pattern) (atEnd longest : Bool) : Part → Part
  | text cs quoted => text (pattern.cut atEnd longest cs) quoted
  | value cs => value (pattern.cut atEnd longest cs)
  | each items => each (pattern.cutRow atEnd longest true items)
  | eachSplit items => eachSplit (pattern.cutRow atEnd longest false items)

end Part

def charsOf (parts : List Part) : List Char :=
  parts.flatMap Part.chars

/-! ### Home directories -/

/-- A character that stands without quotes in a word. -/
def Part.bare? : Part → Option Char
  | .text [c] false => some c
  | _ => none

/-- The home directory of a user, or of the one who runs the script. -/
def home? (s : State) (user : List Char) : Option String :=
  if user.isEmpty then s.stored? "HOME"
  else if user = "root".toList then some "/root"
  else none

/-- A tilde that begins a word, with the name of a user up to a slash, stands for a home directory.
In the value of an assignment a colon ends that name too. -/
def withHome (s : State) (isValue : Bool) (parts : List Part) : List Part :=
  match parts with
  | .text ['~'] false :: rest =>
    let isEnd (c : Char) : Bool := c = '/' || (isValue && c = ':')
    let user := rest.takeWhile fun part => part.bare?.any (!isEnd ·)
    let after := rest.drop user.length
    let closed : Bool := match after with
      | [] => true
      | part :: _ => part.bare?.any isEnd
    match if closed then home? s (user.filterMap Part.bare?) else none with
    | some "" => after
    | some home => .text home.toList true :: after
    | none => parts
  | parts => parts

/-- The same after every colon of a value. -/
def withHomes (s : State) (parts : List Part) : List Part :=
  let pieces := parts.splitBy fun part _ => part.bare? ≠ some ':'
  pieces.flatMap (withHome s true)

/-! ### Parts -/

/-- Runs a script and takes what it writes. -/
abbrev Capture := Script → State → State × List Char

/-- The parameters that stand for all arguments. -/
def isAll (name : String) : Bool :=
  name = "@" || name = "*"

/-- A text that is known now. -/
def made (quoted : Bool) (cs : List Char) : Part :=
  if quoted then .text cs true else .value cs

/-- All arguments as one text. -/
def joinedArguments (s : State) : List Char :=
  let between := match s.stored? "IFS" with
    | none => " "
    | some separators => String.ofList (separators.toList.take 1)
  (between.intercalate s.arguments).toList

/-- The value of a parameter, if it has one. In a word that becomes fields (`full`) the arguments
can stay apart. -/
def partOf? (s : State) (full : Bool) (name : String) (quoted : Bool) : Option Part :=
  if full && quoted && name = "@" then some (.each s.arguments)
  else if full && !quoted && isAll name && (s.stored? "IFS").isSome then
    some (.eachSplit s.arguments)
  else if isAll name then some (made quoted (joinedArguments s))
  else (s.value? name).map fun text => made quoted text.toList

/-- Ends the script when a parameter has no value and needs one. -/
def demanded (s : State) (name : String) : State :=
  if s.options.demandValues && (s.value? name).isNone && !isAll name then
    s.abort (name ++ ": parameter not set")
  else s

def assignAll (s : State) (written : Bindings) : State :=
  written.reverse.foldl (fun s (name, n) => s.assign name (Decimal.integer n)) s

def calculated (s : State) (quoted : Bool) (cs : List Char) : State × List Part :=
  let read (name : String) : Except SumError Int :=
    let text := (s.value? name).getD ""
    match number? text.toList with
    | some n => if n.natAbs < pow2 63 then .ok n else .error (.badNumber text)
    | none => .error (.badNumber text)
  match calculate read cs with
  | .ok (n, written) =>
    let text := (Decimal.integer n).toList
    (assignAll s written, [made quoted text])
  | .error .overflow => ({ s with flow := .killed Signal.arithmetic }, [])
  | .error e => (s.abort (e.message (String.ofList cs)), [])

/-- Whether a word that goes with a parameter becomes fields where the parameter does. -/
def Use.isFull : Use → Bool
  | .otherwise _ | .instead _ => true
  | _ => false

/-- The value of a parameter that another text can take the place of; `isBare` tells that nothing is
written for that text. -/
def used (s : State) (full : Bool) (name : String) (use : Use) (quoted isBare : Bool)
    (word : State → State × List Part) : State × List Part :=
  let value := partOf? s full name quoted
  let itself := value.getD (made quoted [])
  let missing (emptyToo : Bool) : Bool := value.isNone || (emptyToo && itself.length = 0)
  let word (s : State) : State × List Part :=
    let (s, parts) := word s
    (s, withHome s false parts)
  let given (result : State × List Part) : State × List Part :=
    (result.1, if quoted then .text [] true :: result.2
      else .value [] :: result.2.map Part.unquoted)
  match use with
  | .plain => (demanded s name, [itself])
  | .length =>
    let length := (partOf? s false name quoted).elim 0 Part.length
    (demanded s name, [made quoted (Decimal.natural length).toList])
  | .cut atEnd longest =>
    if value.isNone then (demanded s name, [itself])
    else
      let (s, parts) := word s
      (s, [itself.cut (patternOf (parts.flatMap Part.marked)) atEnd longest])
  | .otherwise emptyToo => if missing emptyToo then given (word s) else (s, [itself])
  | .instead emptyToo => if missing emptyToo then given (s, []) else given (word s)
  | .assign emptyToo =>
    if missing emptyToo then
      let (s, parts) := word s
      if !s.goesOn then (s, [])
      else if !isName name then (s.abort (name ++ ": bad variable name"), [])
      else
        let cs := charsOf parts
        (s.assign name (String.ofList cs), [made quoted cs])
    else (s, [itself])
  | .demand emptyToo =>
    if missing emptyToo then
      let (s, parts) := word s
      let message := if !isBare then String.ofList (charsOf parts)
        else if emptyToo then "parameter not set or null" else "parameter not set"
      (if s.goesOn then s.abort (name ++ ": " ++ message) else s, [])
    else (s, [itself])

mutual

def partsOfPiece (capture : Capture) (full : Bool) (piece : Piece Script) (s : State) :
    State × List Part :=
  match piece with
  | .text cs quoted => (s, [.text cs quoted])
  | .value name use word quoted =>
    used s full name use quoted word.isEmpty (partsOf capture (full && use.isFull) word)
  | .output script quoted =>
    let (s, cs) := capture script s
    (s, [made quoted cs])
  | .result expression quoted =>
    let (s, parts) := partsOf capture false expression s
    if s.goesOn then calculated s quoted (charsOf parts) else (s, [])
  | .nonsense => (s.abort "Bad substitution", [])

/-- The parts of a word. Once the script has to end, nothing more is looked at. -/
def partsOf (capture : Capture) (full : Bool) (word : List (Piece Script)) (s : State) :
    State × List Part :=
  match word with
  | [] => (s, [])
  | piece :: rest =>
    if s.goesOn then
      let (s, here) := partsOfPiece capture full piece s
      let (s, later) := partsOf capture full rest s
      (s, here ++ later)
    else (s, [])

end

/-- A text in which only values are looked for. -/
def textOf (capture : Capture) (word : Word) (s : State) : State × String :=
  let (s, parts) := partsOf capture false word s
  (s, String.ofList (charsOf parts))

/-- A word as one text. -/
def wholeOf (capture : Capture) (word : Word) (s : State) : State × String :=
  let (s, parts) := partsOf capture false word s
  (s, String.ofList (charsOf (withHome s false parts)))

/-- What a variable is to be. -/
def assignedOf (capture : Capture) (word : Word) (s : State) : State × String :=
  let (s, parts) := partsOf capture false word s
  (s, String.ofList (charsOf (withHomes s parts)))

/-! ### Fields -/

/-- Fields in the making: those that are complete, the last first, and the one that may still
grow. -/
structure Fields where
  done : List (List Marked)
  open? : Option (List Marked)
  /-- Whether the last field was ended by blanks alone. -/
  afterBlank : Bool

namespace Fields

def extend (f : Fields) (cs : List Marked) : Fields :=
  { f with open? := some (f.open?.getD [] ++ cs), afterBlank := false }

def close (f : Fields) : Fields :=
  match f.open? with
  | none => f
  | some cs => ⟨cs :: f.done, none, f.afterBlank⟩

def separate (f : Fields) (isBlank : Bool) : Fields :=
  match f.open? with
  | some cs => ⟨cs :: f.done, none, isBlank⟩
  | none =>
    if isBlank then f
    else if f.afterBlank then { f with afterBlank := false }
    else ⟨[] :: f.done, none, false⟩

/-- A value that is split at separators. Separators that are blanks count as one. -/
def extendSplit (separators : List Char) (f : Fields) (cs : List Char) : Fields :=
  cs.foldl (fun f c =>
    if separators.contains c then f.separate (c = ' ' || c = '\t' || c = '\n')
    else f.extend [(c, false)]) f

/-- Items that each begin a field of their own, except that the first goes on with the open one. -/
def extendEach (add : Fields → List Char → Fields) (apart : Fields → Fields) (f : Fields) :
    List String → Fields
  | [] => f
  | [last] => add f last.toList
  | first :: rest => extendEach add apart (apart (add f first.toList)) rest

def add (separators : List Char) (f : Fields) : Part → Fields
  | .text cs quoted => f.extend (cs.map (·, quoted))
  | .value cs => f.extendSplit separators cs
  | .each items => f.extendEach (fun f cs => f.extend (cs.map (·, true))) close items
  | .eachSplit items => f.extendEach (extendSplit separators) (separate · true) items

end Fields

/-- The fields of some parts. -/
def fieldsOf (s : State) (parts : List Part) : List (List Marked) :=
  ((parts.foldl (Fields.add s.separators.toList) ⟨[], none, false⟩).close).done.reverse

/-! ### Names of files -/

/-- The names in a directory that fit a pattern. One that begins with a dot has to be asked for. -/
def matching (d : Disk) (directory : String) (segment : List Marked) : List String :=
  match d.list (pathOf (if directory = "" then "." else directory)) with
  | .error _ => []
  | .ok names =>
    let pattern := patternOf segment
    ("." :: ".." :: names.map inBytes).filter fun name =>
      (name.toList.head? ≠ some '.' || segment.head?.any (·.1 = '.')) && pattern.fits name.toList

/-- The segments of a path, apart by slashes. -/
def segmentsOf (cs : List Marked) : List (List Marked) :=
  cs.foldr (fun c segments =>
    if c.1 = '/' then [] :: segments
    else match segments with
      | [] => [[c]]
      | segment :: rest => (c :: segment) :: rest) [[]]

/-- The paths that begin with one of some texts and go on as the segments ask. -/
def paths (d : Disk) : List (List Marked) → List String → List String
  | [], found => found
  | segment :: rest, found =>
    let ended := if rest.isEmpty then "" else "/"
    paths d rest (found.flatMap fun directory =>
      if isActive segment then (matching d directory segment).map fun name =>
        directory ++ name ++ ended
      else [directory ++ String.ofList (segment.map (·.1)) ++ ended])

/-- The names that a field stands for: itself, or the files that fit it. -/
def namesFor (s : State) (field : List Marked) : List String :=
  let itself := String.ofList (field.map (·.1))
  if s.options.plainNames || !isActive field then [itself]
  else
    let named := paths s.disk (segmentsOf field) [""]
    let found := named.filter fun path => (s.disk.lookHere (pathOf path)).toOption.isSome
    if found.isEmpty then [itself] else found.mergeSort fun a b => decide (a ≤ b)

/-- The fields of a word. -/
def expand (capture : Capture) (word : Word) (s : State) : State × List String :=
  let (s, parts) := partsOf capture true word s
  (s, (fieldsOf s (withHome s false parts)).flatMap (namesFor s))

/-- The fields of words, one after another. -/
def expandAll (capture : Capture) (words : List Word) (s : State) : State × List String :=
  words.foldl (fun (s, fields) word =>
    let (s, more) := expand capture word s
    (s, fields ++ more)) (s, [])

end Montage.Shell
