import Montage.Regex.Match
import Montage.Regex.Reader
import Montage.Utility.Launch
import Montage.Utility.Listing

/-!
Going through directories and asking about each file that is there.
-/

namespace Montage.Utility

open Shell

namespace Walk

/-- How a number is compared with one that was given. -/
inductive Bound
  | exactly
  | moreThan
  | lessThan

/-- How the bits of a mode are compared. -/
inductive Bits
  | exactly
  | all
  | any

/-- What is asked about a file, or done with it. -/
inductive Query
  | always
  | never
  | name (pattern : Pattern) (ignoreCase : Bool)
  | path (pattern : Pattern) (ignoreCase : Bool)
  | target (pattern : Pattern)
  | fits (r : Regex) (ignoreCase : Bool)
  | kind (letters : List Char) (followed : Bool)
  | size (bound : Bound) (count unit : Nat)
  | links (bound : Bound) (count : Nat)
  /-- How old it is, in whole units. -/
  | age (bound : Bound) (count : Nat) (unit : Int)
  | newer (moment : Int)
  | empty
  | mode (bits : Bits) (mode : Nat)
  | runnable
  | same (entry : Entry)
  | print (ending : Char)
  | told (form : List Char)
  | erase
  | prune
  | quit
  /-- A program with the name of the file for each mark, in the directory of the file or not. -/
  | run (words : List String) (inside : Bool)
  /-- A program with all the names after its arguments. -/
  | collect (words : List String)
  | not (q : Query)
  | both (a b : Query)
  | either (a b : Query)
  | each (a b : Query)

/-- Whether something is done, and not only asked. -/
def Query.acts : Query → Bool
  | print _ | told _ | erase | run .. | collect _ | quit => true
  | not q => q.acts
  | both a b | either a b | each a b => a.acts || b.acts
  | _ => false

/-- How files are gone through. -/
structure Style where
  /-- What is in a directory comes before it. -/
  deepFirst : Bool
  least : Nat
  most : Option Nat
  followLinks : Bool
  followGiven : Bool

/-! ### Reading -/

structure Draft where
  style : Style
  extended : Bool

/-- A complaint about what is asked. -/
abbrev Reading := Except String (Query × List String × Draft)

def bounded? (text : String) : Option (Bound × Nat × List Char) :=
  let (bound, cs) := match text.toList with
    | '+' :: rest => (Bound.moreThan, rest)
    | '-' :: rest => (Bound.lessThan, rest)
    | cs => (Bound.exactly, cs)
  let digits := cs.takeWhile Char.isDigit
  if digits.isEmpty then none else some (bound, Numeral.value digits, cs.drop digits.length)

/-- The bytes of a unit of size. -/
def sizeUnit? : List Char → Option Nat
  | [] | ['b'] => some 512
  | ['c'] => some 1
  | ['w'] => some 2
  | ['k'] => some 1024
  | ['M'] => some 1048576
  | ['G'] => some 1073741824
  | _ => none

def sizeQuery? (text : String) : Option Query := do
  let (bound, n, rest) ← bounded? text
  let unit ← sizeUnit? rest
  some (.size bound n unit)

def modeQuery? (text : String) : Option Query := do
  let (bits, cs) := match text.toList with
    | '-' :: rest => (Bits.all, rest)
    | '/' :: rest => (Bits.any, rest)
    | cs => (Bits.exactly, cs)
  some (.mode bits (← Mode.after? cs false 0 0))

/-- An expression where parentheses and bars need a backslash, in the form where they need none. -/
def unescaped : List Char → List Char
  | '\\' :: c :: rest =>
    if "()|".toList.contains c then c :: unescaped rest else '\\' :: c :: unescaped rest
  | c :: rest =>
    if "()|\x7b\x7d".toList.contains c then '\\' :: c :: unescaped rest else c :: unescaped rest
  | [] => []

def patternQuery (ignoreCase : Bool) (text : String) : Pattern :=
  let cs := if ignoreCase then text.toList.map Char.toLower else text.toList
  Shell.patternOf (unmarked cs)

/-- The words up to a semicolon, or up to a mark with a plus after it. -/
def programWords : List String → List String → Option (List String × Bool × List String)
  | _, [] => none
  | found, ";" :: rest => some (found.reverse, false, rest)
  | found, "\x7b\x7d" :: "+" :: rest => some (found.reverse, true, rest)
  | found, word :: rest => programWords (word :: found) rest

def minute : Int :=
  60000

def day : Int :=
  86400000

/-- A question of one argument. -/
def oneArgument (s : State) (d : Draft) (key text : String) : Except String (Option Query) :=
  let wrong := Except.error ("invalid argument \x60" ++ text ++ "' to \x60" ++ key ++ "'")
  let numbered (make : Bound → Nat → Query) : Except String (Option Query) :=
    match bounded? text with
    | some (bound, n, []) => .ok (some (make bound n))
    | _ => wrong
  let user : Except String (Option Query) :=
    if isUser text then .ok (some .always)
    else if text.toList.all Char.isDigit then .ok (some .never)
    else .error (quotedWord text ++ " is not the name of a" ++
      (if key = "-user" then " known user" else "n existing group"))
  match key with
  | "-name" => .ok (some (.name (patternQuery false text) false))
  | "-iname" => .ok (some (.name (patternQuery true text) true))
  | "-path" | "-wholename" => .ok (some (.path (patternQuery false text) false))
  | "-ipath" | "-iwholename" => .ok (some (.path (patternQuery true text) true))
  | "-lname" => .ok (some (.target (patternQuery false text)))
  | "-regex" | "-iregex" =>
    let cs := if d.extended then text.toList else unescaped text.toList
    match Regex.read .extendedLenient cs with
    | .ok r => .ok (some (.fits r (key = "-iregex")))
    | .error fault => .error ("failed to compile regular expression '" ++ text ++ "': " ++
        fault.message)
  | "-type" | "-xtype" =>
    let letters := (Text.splitOn (· = ',') text.toList).flatten
    match letters.find? fun c => !"fdlbcpsD".toList.contains c with
    | some c => .error ("Unknown argument to " ++ key ++ ": " ++ String.ofList [c])
    | none =>
      if letters.isEmpty then
        .error ("Arguments to " ++ key ++ " should contain at least one letter")
      else .ok (some (.kind letters (key = "-xtype")))
  | "-size" =>
    match sizeQuery? text with
    | some q => .ok (some q)
    | none => .error ("invalid -size type \x60" ++ String.ofList (text.toList.drop
        (text.length - 1)) ++ "'")
  | "-perm" =>
    match modeQuery? text with
    | some q => .ok (some q)
    | none => .error ("invalid mode " ++ quotedWord text)
  | "-links" => numbered .links
  | "-inum" => numbered fun _ _ => .never
  | "-mtime" | "-atime" | "-ctime" => numbered fun bound n => .age bound n day
  | "-mmin" | "-amin" | "-cmin" => numbered fun bound n => .age bound n minute
  | "-newer" | "-anewer" | "-cnewer" | "-newermm" =>
    match s.disk.look (pathOf text) with
    | .ok entry => .ok (some (.newer (s.disk.modifiedOf entry)))
    | .error e => .error (quotedWord text ++ ": " ++ e.words)
  | "-samefile" =>
    match s.disk.lookHere (pathOf text) with
    | .ok entry => .ok (some (.same entry))
    | .error e => .error (quotedWord text ++ ": " ++ e.words)
  | "-user" | "-group" | "-uid" | "-gid" => user
  | "-printf" => .ok (some (.told text.toList))
  | _ => .ok none

/-- The options and questions without an argument. -/
def noArgument (key : String) : Option Query :=
  match key with
  | "-true" | "-readable" | "-writable" | "-daystart" | "-noleaf" | "-xdev" | "-mount" |
      "-ignore_readdir_race" | "-warn" | "-nowarn" | "-depth" | "-d" | "-follow" => some .always
  | "-false" | "-nouser" | "-nogroup" => some .never
  | "-empty" => some .empty
  | "-executable" => some .runnable
  | "-print" => some (.print '\n')
  | "-print0" => some (.print '\x00')
  | "-delete" => some .erase
  | "-prune" => some .prune
  | "-quit" => some .quit
  | _ => none

/-- What an option changes for the whole walk. -/
def Style.after (style : Style) (key : String) : Style :=
  match key with
  | "-delete" | "-depth" | "-d" => { style with deepFirst := true }
  | "-follow" => { style with followLinks := true }
  | _ => style

/-- A depth that limits what is gone through. -/
def depth? (key text : String) : Except String Nat :=
  if !text.isEmpty && text.toList.all Char.isDigit then .ok (Numeral.value text.toList)
  else .error ("Expected a positive decimal integer argument to " ++ key ++ ", but got " ++
    quotedWord text)

/-- A single question, which is not the beginning of a larger one. -/
def oneQuery (s : State) (d : Draft) (key : String) (rest : List String) : Reading :=
  match noArgument key with
  | some q => .ok (q, rest, { d with style := d.style.after key })
  | none =>
    match key with
    | "-exec" | "-execdir" | "-ok" | "-okdir" =>
      match programWords [] rest with
      | none | some ([], _, _) => .error ("missing argument to \x60" ++ key ++ "'")
      | some (words, true, rest) => .ok (.collect words, rest, d)
      | some (words, false, rest) => .ok (.run words (key = "-execdir"), rest, d)
    | _ =>
      match rest with
      | [] =>
        match oneArgument s d key "1" with
        | .ok none =>
          if ["-maxdepth", "-mindepth", "-regextype"].contains key then
            .error ("missing argument to \x60" ++ key ++ "'")
          else unknown key
        | _ => .error ("missing argument to \x60" ++ key ++ "'")
      | text :: rest =>
        match key with
        | "-maxdepth" => (depth? key text).map fun n =>
          (.always, rest, { d with style := { d.style with most := some n } })
        | "-mindepth" => (depth? key text).map fun n =>
          (.always, rest, { d with style := { d.style with least := n } })
        | "-regextype" =>
          .ok (.always, rest, { d with extended := text ≠ "emacs" && text ≠ "findutils-default" })
        | _ => do
          match ← oneArgument s d key text with
          | some q => .ok (q, rest, d)
          | none => unknown key
where
  unknown (key : String) : Reading :=
    if key.toList.head? = some '-' then .error ("unknown predicate \x60" ++ key ++ "'")
    else .error ("paths must precede expression: \x60" ++ key ++ "'")

mutual

/-- Questions of which any may hold, and lists of those. -/
def readList (s : State) : Nat → Draft → List String → Reading
  | 0, _, _ => .error "expression too long"
  | fuel + 1, d, words => do
    let (q, rest, d) ← readEither s fuel d words
    match rest with
    | "," :: rest =>
      let (next, rest, d) ← readList s fuel d rest
      .ok (.each q next, rest, d)
    | rest => .ok (q, rest, d)

def readEither (s : State) : Nat → Draft → List String → Reading
  | 0, _, _ => .error "expression too long"
  | fuel + 1, d, words => do
    let (q, rest, d) ← readBoth s fuel d words
    match rest with
    | "-o" :: after | "-or" :: after =>
      if after.isEmpty then
        .error ("expected an expression after '" ++ rest.head?.getD "" ++ "'")
      else
        let (next, rest, d) ← readEither s fuel d after
        .ok (.either q next, rest, d)
    | rest => .ok (q, rest, d)

/-- Questions that all have to hold. -/
def readBoth (s : State) : Nat → Draft → List String → Reading
  | 0, _, _ => .error "expression too long"
  | fuel + 1, d, words => do
    let (q, rest, d) ← readSingle s fuel d words
    match rest with
    | [] => .ok (q, [], d)
    | word :: after =>
      if ["-o", "-or", ",", ")"].contains word then .ok (q, rest, d)
      else
        let isAnd := word = "-a" || word = "-and"
        if isAnd && after.isEmpty then
          .error ("expected an expression after '" ++ word ++ "'")
        else
          let (next, rest, d) ← readBoth s fuel d (if isAnd then after else rest)
          .ok (.both q next, rest, d)

def readSingle (s : State) : Nat → Draft → List String → Reading
  | 0, _, _ | _, _, [] => .error "expression too long"
  | fuel + 1, d, word :: rest =>
    match word with
    | "!" | "-not" =>
      if rest.isEmpty then .error ("expected an expression after '" ++ word ++ "'")
      else do
        let (q, rest, d) ← readSingle s fuel d rest
        .ok (.not q, rest, d)
    | "(" =>
      if rest.head? = some ")" then
        .error "invalid expression; empty parentheses are not allowed."
      else if rest.isEmpty then .error missing
      else do
        let (q, rest, d) ← readList s fuel d rest
        match rest with
        | ")" :: rest => .ok (q, rest, d)
        | _ => .error missing
    | ")" => .error "invalid expression; you have too many ')'"
    | "-o" | "-or" | "-a" | "-and" | "," =>
      .error ("invalid expression; you have used a binary operator '" ++ word ++
        "' with nothing before it.")
    | _ => oneQuery s d word rest
where
  missing : String :=
    "invalid expression; I was expecting to find a ')' somewhere but did not see one."

end

/-! ### Walking -/

/-- A file that has been come to: its path, the path it was reached from, and how deep it is. -/
structure Visit where
  path : String
  top : String
  depth : Nat
  entry : Entry

/-- How far a walk has come. -/
structure Progress where
  state : State
  failed : Bool
  pruned : Bool
  ended : Bool
  /-- Names that a program waits for, the latest first. -/
  collected : List (List String × List String)

namespace Visit

/-- The last name of the path; a path of slashes is its own name. -/
def name (v : Visit) : String :=
  let last := lastName v.path
  if last = "" then "/" else last

/-- The path below the directory from which it was reached. -/
def below (v : Visit) : String :=
  String.ofList ((v.path.toList.drop v.top.length).dropWhile (· = '/'))

/-- The path of the directory in which it is. -/
def directory (v : Visit) : String :=
  directoryName v.path

def kindLetter (d : Disk) (entry : Entry) : Char :=
  let letter := (factsOf d entry).kindLetter d
  if letter = '-' then 'f' else letter

/-- What the last part of a form stands for. -/
def part? (v : Visit) (s : State) (c : Char) : Option String :=
  let f := factsOf s.disk v.entry
  match c with
  | 'p' => some v.path
  | 'f' => some v.name
  | 'h' => some (if v.path.toList.contains '/' then v.directory else ".")
  | 'P' => some v.below
  | 'H' => some v.top
  | 's' => some (Decimal.natural f.size)
  | 'd' => some (Decimal.natural v.depth)
  | 'y' | 'Y' => some (String.ofList [kindLetter s.disk v.entry])
  | 'm' => some (String.ofList (Mode.octal 1 f.mode))
  | 'M' => some (f.letters s.disk)
  | 'n' => some (Decimal.natural f.links)
  | 'l' => some (f.target.getD "")
  | 'u' | 'g' => some "root"
  | 'U' | 'G' => some "0"
  | 'b' => some (Decimal.natural f.blocks)
  | 'k' => some (Decimal.natural ((f.blocks + 1) / 2))
  | 't' => some (fullTime s f.modified)
  | _ => none

/-- A form filled for a file, and the letters in it that mean nothing. -/
def filled (v : Visit) (s : State) : Nat → List Char → List Char × List Char
  | 0, _ | _, [] => ([], [])
  | fuel + 1, '%' :: c :: rest =>
    let (shown, faults) := filled v s fuel rest
    if c = '%' then ('%' :: shown, faults)
    else match v.part? s c with
      | some text => (text.toList ++ shown, faults)
      | none => ('%' :: c :: shown, c :: faults)
  | fuel + 1, '\\' :: rest =>
    let (shown, faults) := filled v s fuel (escapeBytes rest).2
    (charsFrom (escapeBytes rest).1 ++ shown, faults)
  | fuel + 1, c :: rest =>
    let (shown, faults) := filled v s fuel rest
    (c :: shown, faults)

end Visit

def Bound.holds (bound : Bound) (limit n : Int) : Bool :=
  match bound with
  | exactly => n = limit
  | moreThan => limit < n
  | lessThan => n < limit

def Bits.hold (bits : Bits) (asked mode : Nat) : Bool :=
  match bits with
  | exactly => mode = asked
  | all => mode &&& asked = asked
  | any => asked = 0 || mode &&& asked ≠ 0

/-- A program run for a file; whether it went well. -/
def runFor (start : Starter) (p : Progress) (v : Visit) (words : List String) (inside : Bool) :
    Bool × Progress :=
  let shown := if inside then "./" ++ v.name else v.path
  let filled := words.map fun word =>
    String.ofList (replaceMark "\x7b\x7d".toList shown.toList (word.length + 1) word.toList)
  let s := p.state
  let inner := if inside then
      match s.disk.reach (pathOf (if v.path.toList.contains '/' then v.directory else ".")) with
      | .ok place => { s with disk := { s.disk with workingDirectory := place.place } }
      | .error _ => s
    else s
  match filled with
  | [] => (false, p)
  | name :: args =>
    match runProgram start name args inner with
    | .ok done =>
      let disk := { done.disk with workingDirectory := s.disk.workingDirectory }
      let done := { done with
        disk := disk, processes := { done.processes with endedBy := none } }
      (done.status = 0, { p with state := done })
    | .error e =>
      (false, { p with state := s.complain ("find: " ++ quotedWord name ++ ": " ++ e.words) })

/-- Removes a file, or a directory with nothing in it. -/
def eraseAt (p : Progress) (v : Visit) : Bool × Progress :=
  if v.path = "." then (true, p)
  else
    let d := p.state.disk
    let removed := match v.entry with
      | .directory _ => d.removeDirectory (pathOf v.path)
      | _ => d.removeFile (pathOf v.path)
    match removed with
    | .ok d => (true, { p with state := { p.state with disk := d } })
    | .error e =>
      let text := "find: cannot delete " ++ quotedWord v.path ++ ": " ++ e.words
      (false, { p with state := p.state.complain text, failed := true })

def told (p : Progress) (v : Visit) (form : List Char) : Bool × Progress :=
  let (shown, faults) := v.filled p.state (form.length + 1) form
  let s := faults.foldl (fun s c =>
    s.complain ("find: warning: unrecognized format directive \x60%" ++ String.ofList [c] ++ "'"))
    p.state
  (true, { p with state := put s shown })

/-- Whether something holds of a file, and what has been done for that. -/
def ask (start : Starter) (v : Visit) : Query → Progress → Bool × Progress
  | q, p =>
    let d := p.state.disk
    let f := factsOf d v.entry
    let shown (ignoreCase : Bool) (text : String) : List Char :=
      if ignoreCase then text.toList.map Char.toLower else text.toList
    match q with
    | .always => (true, p)
    | .never => (false, p)
    | .name pattern ignoreCase => (pattern.fits (shown ignoreCase v.name), p)
    | .path pattern ignoreCase => (pattern.fits (shown ignoreCase v.path), p)
    | .target pattern => (f.target.any fun text => pattern.fits text.toList, p)
    | .fits r ignoreCase =>
      let cs := v.path.toList
      (((r.matchAt? ⟨ignoreCase, false⟩ cs (.start cs)).any fun m => m.stop = cs.length), p)
    | .kind letters followed =>
      let entry := if followed then (d.look (pathOf v.path)).toOption.getD v.entry else v.entry
      (letters.contains (Visit.kindLetter d entry), p)
    | .size bound count unit => (bound.holds count ((f.size + unit - 1) / unit : Nat), p)
    | .links bound count => (bound.holds count f.links, p)
    | .age bound count unit => (bound.holds count (Int.fdiv (d.now - f.modified) unit), p)
    | .newer moment => (decide (moment < f.modified), p)
    | .empty =>
      match v.entry with
      | .directory entries => (entries.isEmpty, p)
      | .file _ => (f.size = 0, p)
      | .link _ => (false, p)
    | .mode bits mode => (bits.hold mode f.mode, p)
    | .runnable => (f.isDirectory || f.mode &&& 0o111 ≠ 0, p)
    | .same entry => (Disk.isSameFile v.entry (some entry), p)
    | .print ending => (true, { p with state := put p.state (v.path.toList ++ [ending]) })
    | .told form => told p v form
    | .erase => eraseAt p v
    | .prune => (true, { p with pruned := true })
    | .quit => (true, { p with ended := true })
    | .run words inside => runFor start p v words inside
    | .collect words =>
      let names := (p.collected.lookup words).getD []
      (true, { p with
        collected := (words, v.path :: names) :: p.collected.filter (·.1 ≠ words) })
    | .not q =>
      let (held, p) := ask start v q p
      (!held, p)
    | .both a b =>
      let (held, p) := ask start v a p
      if held && !p.ended then ask start v b p else (held, p)
    | .either a b =>
      let (held, p) := ask start v a p
      if held || p.ended then (held, p) else ask start v b p
    | .each a b =>
      let (held, p) := ask start v a p
      if p.ended then (held, p) else ask start v b p

/-- What is at a path that is gone through. -/
def entryAt (s : State) (follow : Bool) (path : String) : Except FileError Entry :=
  let here := s.disk.lookHere (pathOf path)
  if follow then
    match s.disk.look (pathOf path) with
    | .ok entry => .ok entry
    | .error _ => here
  else here

/-- Asks about a file and about all that is below it. -/
def visit (start : Starter) (style : Style) (q : Query) : Nat → String → String → Nat → Progress →
    Progress
  | 0, _, _, _, p => p
  | fuel + 1, top, path, depth, p =>
    if p.ended then p
    else
      let follow := style.followLinks || (depth = 0 && style.followGiven)
      let missing (e : FileError) (p : Progress) : Progress :=
        let text := "find: " ++ quotedWord path ++ ": " ++ e.words
        { p with state := p.state.complain text, failed := true }
      match entryAt p.state follow path with
      | .error e => missing e p
      | .ok entry =>
        let v : Visit := ⟨path, top, depth, entry⟩
        let asked (p : Progress) : Progress :=
          if depth < style.least || p.ended then p else (ask start v q p).2
        let inside (p : Progress) : Progress :=
          if p.ended || p.pruned || !entry.isDirectory || style.most.any (· ≤ depth) then
            { p with pruned := false }
          else match entryAt p.state follow path with
            | .error e => missing e p
            | .ok (.directory entries) =>
              let lead := if path.toList.getLast? = some '/' then path else path ++ "/"
              let names := (entries.map fun (name, _) => inBytes name).mergeSort fun a b =>
                decide (a ≤ b)
              names.foldl (fun p name =>
                visit start style q fuel top (lead ++ name) (depth + 1) p) p
            | .ok _ => p
        if style.deepFirst then { asked (inside p) with pruned := false }
        else inside (asked { p with pruned := false })

/-- How deep directories may be. -/
def depthLimit : Nat :=
  10000

/-- The programs that wait for names are run. -/
def runCollected (start : Starter) (p : Progress) : Progress :=
  p.collected.reverse.foldl (fun p (words, names) =>
    match words with
    | [] => p
    | name :: args =>
      match runProgram start name (args ++ names.reverse) p.state with
      | .ok done =>
        let done := { done with processes := { done.processes with endedBy := none } }
        { p with state := done, failed := p.failed || done.status ≠ 0 }
      | .error e =>
        let text := "find: " ++ quotedWord name ++ ": " ++ e.words
        { p with state := p.state.complain text, failed := true }) p

/-- Whether an argument begins what is asked. -/
def beginsQuery (word : String) : Bool :=
  (word.toList.head? = some '-' && word ≠ "-") || ["(", ")", "!", ","].contains word

end Walk

/-- Goes through directories and does what is asked with each file. -/
def find (start : Starter) (s : State) (args : List String) : State :=
  let s := s.finish 0
  let flags := args.takeWhile fun arg => ["-H", "-L", "-P"].contains arg
  let rest := args.drop flags.length
  let paths := rest.takeWhile fun arg => !Walk.beginsQuery arg
  let words := rest.drop paths.length
  let style : Walk.Style :=
    ⟨false, 0, none, flags.getLast? = some "-L", flags.getLast? = some "-H"⟩
  let reading : Walk.Reading := if words.isEmpty then .ok (.always, [], ⟨style, false⟩)
    else Walk.readList s (4 * words.length + 4) ⟨style, false⟩ words
  match reading with
  | .error text => (s.complain ("find: " ++ text)).finish 1
  | .ok (_, _ :: _, _) => (s.complain "find: you have too many ')'").finish 1
  | .ok (q, [], d) =>
    let q := if q.acts then q else .both q (.print '\n')
    let paths := if paths.isEmpty then ["."] else paths
    let p := paths.foldl (fun p path => Walk.visit start d.style q Walk.depthLimit path path 0 p)
      ⟨s, false, false, false, []⟩
    let p := Walk.runCollected start p
    p.state.finish (if p.failed then 1 else 0)

end Montage.Utility
