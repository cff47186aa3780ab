import Montage.Regex.Match
import Montage.Regex.Reader
import Montage.Shell.Pattern
import Montage.Utility.Input

/-!
Searching for lines in which something occurs.
-/

namespace Montage.Utility

open Shell

namespace Search

/-- What a match has to be: any part of a line, whole words, or the whole line. -/
inductive Extent
  | part
  | words
  | line

/-- What is searched for. -/
structure Goal where
  /-- One of these has to match. -/
  pattern : Option Regex
  look : Regex.Look
  extent : Extent

/-- Whether a match from one place to another has the extent that is asked for. -/
def Goal.admits (g : Goal) (line : List Char) (start stop : Regex.Point) : Bool :=
  match g.extent with
  | .part => true
  | .line => start.offset = 0 && stop.offset = line.length
  | .words => !start.before.any Regex.isWord && !stop.rest.head?.any Regex.isWord

/-- The longest match at a place. -/
def Goal.matchAt? (g : Goal) (r : Regex) (line : List Char) (p : Regex.Point) :
    Option (Nat × Nat) :=
  let ends := ((Regex.ends g.look line r.looksBack r (p, [])).map (·.1)).filter (g.admits line p)
  let stop := (ends.map (·.offset)).foldl max 0
  if ends.isEmpty then none else some (p.offset, stop)

/-- The first match from a place on. -/
def Goal.search? (g : Goal) (r : Regex) (line : List Char) : Nat → Regex.Point → Option (Nat × Nat)
  | 0, _ => none
  | fuel + 1, p =>
    match g.matchAt? r line p with
    | some found => some found
    | none =>
      match p.next? with
      | some (_, q) => search? g r line fuel q
      | none => none

/-- The first match from an offset on: where it starts and where it ends. -/
def Goal.find? (g : Goal) (line : List Char) (offset : Nat) : Option (Nat × Nat) :=
  match g.pattern, g.extent with
  | none, _ => none
  | some r, .part => (r.find? g.look line offset).map fun m => (m.start, m.stop)
  | some r, _ => g.search? r line (line.length + 1) ((Regex.Point.start line).skip offset)

/-- All matches that are not empty, one after another. -/
def Goal.all (g : Goal) (line : List Char) : Nat → Nat → List (Nat × Nat)
  | 0, _ => []
  | fuel + 1, offset =>
    match g.find? line offset with
    | none => []
    | some (start, stop) =>
      if start < stop then (start, stop) :: all g line fuel stop
      else if stop < line.length then all g line fuel (stop + 1)
      else []

/-- A line of a file. -/
structure Line where
  number : Nat
  offset : Nat
  text : List Char
  selected : Bool

def number (ending : Char) (chosen : List Char → Bool) (cs : List Char) : List Line :=
  ((bareLines ending cs).foldl (fun (lines, number, offset) text =>
    (Line.mk number offset text (chosen text) :: lines, number + 1, offset + text.length + 1))
    (([] : List Line), 1, 0)).1.reverse

/-- How the search goes on and what is told. -/
structure Style where
  inverted : Bool
  named : Bool
  numbered : Bool
  offsets : Bool
  tabs : Bool
  onlyMatches : Bool
  /-- So many selected lines are enough for a file. -/
  most : Option Nat
  before : Nat
  after : Nat
  /-- Whether groups of lines are told apart. -/
  grouped : Bool
  ending : Char
  nameEnd : List Char

/-- What stands in front of a line: the name of the file and numbers, each with a mark. -/
def Style.lead (style : Style) (name : String) (mark : Char) (line offset : Nat) : List Char :=
  let parts := (if style.named then [name.toList] else []) ++
    (if style.numbered then [Decimal.digits line] else []) ++
    (if style.offsets then [Decimal.digits offset] else [])
  let marks (i : Nat) : List Char :=
    if i = 0 && style.named && style.nameEnd ≠ ['\n'] then style.nameEnd else [mark]
  let joined := (parts.zipIdx.map fun (part, i) => part ++ marks i).flatten
  joined ++ if style.tabs && !parts.isEmpty then ['\t'] else []

/-- The lines that are told, each with whether it is a selected one: those that are selected and
those around them. -/
def Style.withContext (style : Style) (lines : List Line) : List (Line × Bool) :=
  let enough := style.most.getD lines.length
  let chosen := ((lines.filter (·.selected)).take enough).map (·.number)
  let last := chosen.getLast?.getD 0
  let full := enough ≤ chosen.length
  -- After the last line that counts, what would be selected ends the context.
  let next := if full then
      (((lines.filter fun l => l.selected && last < l.number).head?).map (·.number))
    else none
  let near (n : Nat) : Bool :=
    chosen.any fun m => n ≤ m + style.after && m ≤ n + style.before
  if style.before = 0 && style.after = 0 then
    (lines.filter fun l => l.selected && l.number ≤ last).map (·, true)
  else
    (lines.filter fun l =>
      near l.number && (l.number ≤ last || next.all (l.number < ·))).map fun l =>
        (l, l.selected && l.number ≤ last)

/-- The text that tells some lines. The flag tells whether anything was told before. -/
def Style.told (style : Style) (g : Goal) (name : String) (begun : Bool)
    (lines : List (Line × Bool)) : List Char × Bool :=
  let (shown, _, begun) := lines.foldl (fun (shown, previous, begun) (line, selected) =>
    let separated := style.grouped && begun && previous ≠ some (line.number - 1)
    let gap := if separated then ['-', '-', '\n'] else []
    let mark := if selected then ':' else '-'
    let body : List Char :=
      if !style.onlyMatches then
        style.lead name mark line.number line.offset ++ line.text ++ [style.ending]
      else if !selected || style.inverted then []
      else (g.all line.text (line.text.length + 1) 0).flatMap fun (start, stop) =>
        style.lead name mark line.number (line.offset + start) ++
          (line.text.drop start).take (stop - start) ++ [style.ending]
    ((gap ++ body) :: shown, some line.number, true))
    (([] : List (List Char)), (none : Option Nat), begun)
  (shown.reverse.flatten, begun)

/-- An expression with names for sets of characters that only some forms know. -/
def withDigits : List Char → List Char
  | '\\' :: 'd' :: rest => "[0-9]".toList ++ withDigits rest
  | '\\' :: 'D' :: rest => "[^0-9]".toList ++ withDigits rest
  | '\\' :: 't' :: rest => '\t' :: withDigits rest
  | '\\' :: c :: rest => '\\' :: c :: withDigits rest
  | '(' :: '?' :: ':' :: rest => '(' :: withDigits rest
  | c :: rest => c :: withDigits rest
  | [] => []

/-- The expression that some texts stand for, one of which has to match. -/
def patternOf (form : String) (texts : List (List Char)) : Except Regex.Fault (Option Regex) :=
  let one (cs : List Char) : Except Regex.Fault Regex :=
    match form with
    | "F" => .ok (.literal cs)
    | "E" => Regex.read .extendedLenient cs
    | "P" => Regex.read .extendedLenient (withDigits cs)
    | _ => Regex.read .basic cs
  texts.foldlM (fun (all : Option Regex) cs => do
    let r ← one cs
    .ok (some (match all with
      | some before => .either before r
      | none => r))) none

/-- The files below a directory, in order. -/
def filesBelow (path : String) : Entry → List String
  | .directory entries => below path entries
  | .file _ => [path]
  | .link _ => []
where
  below (path : String) : List (String × Entry) → List String
    | [] => []
    | (name, entry) :: rest =>
      let name := if path = "" then inBytes name
        else if path.toList.getLast? = some '/' then path ++ inBytes name
        else path ++ "/" ++ inBytes name
      filesBelow name entry ++ below path rest

/-- Whether a name fits one of some patterns. -/
def fitsAny (patterns : List String) (name : String) : Bool :=
  let last := String.ofList ((name.toList.reverse.takeWhile (· ≠ '/')).reverse)
  patterns.any fun pattern => (Shell.patternOf (unmarked pattern.toList)).fits last.toList

/-- The files that are searched. -/
def filesOf (s : State) (p : Parsed) (names : List String) : List String :=
  let deep := p.has "r" || p.has "R" || p.value? "d" = some "recurse"
  let names := if !names.isEmpty then names else if deep then [""] else ["-"]
  if !deep then names
  else
    let kept (name : String) : Bool :=
      (p.values "include" = [] || fitsAny (p.values "include") name) &&
        !fitsAny (p.values "exclude") name &&
        !(((Text.splitOn (· = '/') name.toList).map String.ofList).dropLast.any fun part =>
          fitsAny (p.values "exclude-dir") part)
    names.flatMap fun name =>
      match s.disk.look (pathOf (if name = "" then "." else name)) with
      | .ok (.directory entries) =>
        ((filesBelow name (.directory entries)).mergeSort fun a b => decide (a ≤ b)).filter kept
      | _ => if name = "" then [] else [name]

/-- A number given with an option. -/
def count? (p : Parsed) (key : String) : Option (Option Nat) :=
  match p.value? key with
  | none => some none
  | some text =>
    if !text.isEmpty && text.toList.all Char.isDigit then some (some (Numeral.value text.toList))
    else none

/-- Arguments in which a number alone asks for lines around those that are found. -/
def withNumbers (args : List String) : List String :=
  args.flatMap fun arg =>
    match arg.toList with
    | '-' :: digits =>
      if !digits.isEmpty && digits.all Char.isDigit then ["-C", String.ofList digits] else [arg]
    | _ => [arg]

def knownOptions : OptionSet :=
  options "A:B:C:D:EFGHILPTUVZabcd:e:f:hilm:noqRrsuvwxyz" [("after-context=", "A"),
    ("before-context=", "B"), ("context=", "C"), ("devices=", "D"), ("extended-regexp", "E"),
    ("fixed-strings", "F"), ("basic-regexp", "G"), ("with-filename", "H"),
    ("files-without-match", "L"), ("perl-regexp", "P"), ("initial-tab", "T"), ("binary", "U"),
    ("null", "Z"), ("text", "a"), ("byte-offset", "b"), ("count", "c"), ("directories=", "d"),
    ("regexp=", "e"), ("file=", "f"), ("no-filename", "h"), ("ignore-case", "i"),
    ("no-ignore-case", "sensitive"), ("files-with-matches", "l"), ("max-count=", "m"),
    ("line-number", "n"), ("only-matching", "o"), ("quiet", "q"), ("silent", "q"),
    ("dereference-recursive", "R"), ("recursive", "r"), ("no-messages", "s"),
    ("invert-match", "v"), ("word-regexp", "w"), ("line-regexp", "x"), ("null-data", "z"),
    ("label=", "label"), ("color?", "color"), ("colour?", "color"), ("include=", "include"),
    ("exclude=", "exclude"), ("exclude-dir=", "exclude-dir"), ("line-buffered", "buffered"),
    ("binary-files=", "binary")]

/-- What is told about how the search is to be called. -/
def usage (s : State) : State :=
  (s.complain ("Usage: grep [OPTION]... PATTERNS [FILE]...\n" ++
    "Try 'grep --help' for more information.")).finish 2

/-- How far a search has come. -/
structure Progress where
  state : State
  /-- Some line was selected. -/
  matched : Bool
  failed : Bool
  /-- Some line was told. -/
  begun : Bool

/-- What stands in front of the number of lines found in a file. -/
def Style.countLead (style : Style) (name : String) : List Char :=
  if style.named then name.toList ++ (if style.nameEnd = ['\n'] then [':'] else style.nameEnd)
  else []

/-- Searches one file. -/
def searchFile (p : Parsed) (g : Goal) (style : Style) (progress : Progress) (name : String) :
    Progress :=
  if p.has "q" && progress.matched then progress
  else
    let s := progress.state
    let shown := if name = "-" then (p.value? "label").getD "(standard input)" else name
    match content s name with
    | .error e =>
      if e = .isADirectory && p.value? "d" = some "skip" then progress
      else
        let s := if p.has "s" then s else s.complain ("grep: " ++ shown ++ ": " ++ e.words)
        let s := if e ≠ .isADirectory || p.has "q" || p.has "l" then s
          else if p.has "L" then put s (shown.toList ++ style.nameEnd)
          else if p.has "c" then put s (style.countLead shown ++ ['0', '\n'])
          else s
        { progress with state := s, failed := true }
    | .ok (s, bytes) =>
      if isOutput s name && !(["q", "l", "L", "c"].any p.has) && style.most.all (1 < ·) then
        let text := "grep: " ++ shown ++ ": input file is also the output"
        { progress with state := if p.has "s" then s else s.complain text, failed := true }
      else
      let cs := charsFrom bytes
      let chosen (line : List Char) : Bool := (g.find? line 0).isSome != style.inverted
      let lines := number style.ending chosen cs
      let found := (lines.filter (·.selected)).take (style.most.getD lines.length)
      let isText := p.has "a" || p.value? "binary" = some "text" || style.ending ≠ '\n' ||
        !cs.contains '\x00'
      let skipped := !isText && (p.has "I" || p.value? "binary" = some "without-match")
      let some_ := !found.isEmpty && !skipped
      let progress := { progress with matched := progress.matched || some_ }
      let nameLine (s : State) : State := put s (shown.toList ++ style.nameEnd)
      if p.has "q" then { progress with state := s }
      else if p.has "l" then { progress with state := if some_ then nameLine s else s }
      else if p.has "L" then { progress with state := if some_ then s else nameLine s }
      else if p.has "c" then
        let count := if skipped then 0 else found.length
        { progress with state := put s (style.countLead shown ++ Decimal.digits count ++ ['\n']) }
      else if !isText then
        let text := "grep: " ++ shown ++ ": binary file matches\n"
        { progress with state := if some_ then s.say text else s }
      else
        let (text, begun) := style.told g shown progress.begun (style.withContext lines)
        { progress with state := put s text, begun := begun }

/-- Searches all files. -/
def run (s : State) (p : Parsed) (form : String) (texts : List (List Char)) (names : List String) :
    State :=
  match patternOf form texts with
  | .error fault => (s.complain ("grep: " ++ fault.message)).finish 2
  | .ok pattern =>
    match count? p "A", count? p "B", count? p "C", count? p "m" with
    | some after, some before, some around, some most =>
      let goal : Goal :=
        { pattern := pattern
          look := ⟨p.has "i" || p.has "y", false⟩
          extent := if p.has "x" then .line else if p.has "w" then .words else .part }
      let deep := p.has "r" || p.has "R" || p.value? "d" = some "recurse"
      let hasDirectory := names.any fun name => s.disk.isDirectory (pathOf name)
      let isTree := deep && (names.isEmpty || hasDirectory)
      let style : Style :=
        { inverted := p.has "v"
          named := match p.last? ["H", "h"] with
            | some key => key = "H"
            | none => 1 < names.length || isTree
          numbered := p.has "n"
          offsets := p.has "b"
          tabs := p.has "T"
          onlyMatches := p.has "o"
          most := most
          before := (before.or around).getD 0
          after := (after.or around).getD 0
          grouped := ["A", "B", "C"].any p.has
          ending := if p.has "z" then '\x00' else '\n'
          nameEnd := if p.has "Z" then ['\x00'] else ['\n'] }
      let done := (filesOf s p names).foldl (searchFile p goal style) ⟨s, false, false, false⟩
      done.state.finish
        (if done.failed && !(p.has "q" && done.matched) then 2 else if done.matched then 0 else 1)
    | none, _, _, _ => wrongCount s p "A"
    | _, none, _, _ => wrongCount s p "B"
    | _, _, none, _ => wrongCount s p "C"
    | _, _, _, none => (s.complain "grep: invalid max count").finish 2
where
  wrongCount (s : State) (p : Parsed) (key : String) : State :=
    let text := (p.value? key).getD ""
    (s.complain ("grep: " ++ text ++ ": invalid context length argument")).finish 2

/-- The patterns of a file, one on each line. -/
def patternsIn (s : State) (name : String) : Except FileError (State × List (List Char)) :=
  (content s name).map fun (s, bytes) => (s, bareLines '\n' (charsFrom bytes))

end Search

/-- Searches with an expression of a form, unless an option asks for another one. -/
def grepAs (form : String) (s : State) (args : List String) : State :=
  match Search.knownOptions.parse (Search.withNumbers args) with
  | .error e => Search.usage (s.complain ("grep: " ++ e.message))
  | .ok p =>
    let s := s.finish 0
    let form := (p.last? ["E", "F", "G", "P"]).getD form
    let given := (p.values "e").flatMap fun text => Text.splitOn (· = '\n') text.toList
    let fromFiles := (p.values "f").foldlM (fun (s, texts) name =>
      match Search.patternsIn s name with
      | .ok (s, more) => .ok (s, texts ++ more)
      | .error e => .error ((s.complain ("grep: " ++ name ++ ": " ++ e.words)).finish 2))
      (s, given)
    match (fromFiles : Except State (State × List (List Char))) with
    | .error s => s
    | .ok (s, texts) =>
      if p.has "e" || p.has "f" then Search.run s p form texts p.operands
      else match p.operands with
        | [] => Search.usage s
        | text :: names => Search.run s p form (Text.splitOn (· = '\n') text.toList) names

def grep : State → List String → State :=
  grepAs "G"

end Montage.Utility
