import Montage.Shell.Format
import Montage.Shell.Pattern
import Montage.Utility.Tree

/-!
Commands that tell which files there are and what is known of them.
-/

namespace Montage.Utility

open Shell

/-! ### Facts about files -/

/-- What is known of a file. -/
structure Facts where
  entry : Entry
  mode : Nat
  size : Nat
  links : Nat
  modified : Int
  /-- What a link stands for. -/
  target : Option String

/-- The size that all directories have. -/
def directorySize : Nat :=
  4096

/-- The directories in a directory, each of which knows it by a name of its own. -/
def directoryCount (entries : List (String × Entry)) : Nat :=
  entries.countP fun (_, entry) => entry.isDirectory

def factsOf (d : Disk) (entry : Entry) : Facts :=
  let mode := d.modeOf entry
  let modified := d.modifiedOf entry
  match entry with
  | .file id => ⟨entry, mode, (d.content id).bytes.length, d.linkCount id, modified, none⟩
  | .directory entries => ⟨entry, mode, directorySize, directoryCount entries + 2, modified, none⟩
  | .link target => ⟨entry, mode, target.text.utf8ByteSize, 1, modified, some (inBytes target.text)⟩

namespace Facts

def isDirectory (f : Facts) : Bool :=
  f.entry.isDirectory

def kindLetter (d : Disk) (f : Facts) : Char :=
  match f.entry with
  | .directory _ => 'd'
  | .link _ => 'l'
  | .file id => if (d.content id).isDevice then 'c' else '-'

/-- The letters of the kind and the permissions. -/
def letters (d : Disk) (f : Facts) : String :=
  String.ofList (f.kindLetter d :: Mode.letters f.mode)

/-- The pieces of 512 bytes that a file takes. -/
def blocks (f : Facts) : Nat :=
  match f.entry with
  | .link _ => 0
  | _ => (f.size + 4095) / 4096 * 8

/-- The mark after the name of a file that is no regular one. -/
def mark (f : Facts) : String :=
  match f.entry with
  | .directory _ => "/"
  | .link _ => "@"
  | .file _ => if f.mode &&& 0o111 ≠ 0 then "*" else ""

end Facts

/-! ### Listing -/

/-- A file that is listed, under the name that is shown. -/
structure Listed where
  name : String
  facts : Facts

/-- A name as it is shown by some options. -/
def listedName (p : Parsed) (name : String) : String :=
  let escaped (c : Char) : List Char :=
    if c = ' ' && !p.has "Q" then ['\\', ' ']
    else if c = '\\' then ['\\', '\\']
    else if c = '\x22' && p.has "Q" then ['\\', c]
    else if isPrintable c then [c]
    else escapeOf c
  match p.last? ["Q", "b", "N", "q"] with
  | some "Q" => "\x22" ++ String.ofList (name.toList.flatMap escaped) ++ "\x22"
  | some "b" => String.ofList (name.toList.flatMap escaped)
  | some "q" => String.ofList (name.toList.map fun c => if isPrintable c then c else '?')
  | _ => name

/-- The name with the mark that some options ask for. -/
def markedName (p : Parsed) (item : Listed) : String :=
  let mark := if p.has "F" then item.facts.mark
    else if p.has "p" && item.facts.isDirectory then "/"
    else ""
  listedName p item.name ++ mark

/-- What comes after the last point of a name, unless that is in front. -/
def nameEnding (name : String) : String :=
  ((Path.cutName name).2).getD ""

/-- The order that some options ask for. -/
def listOrder (p : Parsed) (items : List Listed) : List Listed :=
  let byName := items.mergeSort fun a b => decide (a.name ≤ b.name)
  let sorted := match p.last? ["t", "S", "X", "U", "f", "v"] with
    | some "t" => byName.mergeSort fun a b => decide (b.facts.modified ≤ a.facts.modified)
    | some "S" => byName.mergeSort fun a b => decide (b.facts.size ≤ a.facts.size)
    | some "X" => byName.mergeSort fun a b => decide (nameEnding a.name ≤ nameEnding b.name)
    | _ => byName
  let ordered := if p.has "r" then sorted.reverse else sorted
  if p.has "first" then
    let (directories, others) := ordered.partition fun item => item.facts.isDirectory
    directories ++ others
  else ordered

/-- Half a year; older files are listed with their year. -/
def recentLength : Int :=
  15778476000

/-- The time of a file as a listing tells it. -/
def listedTime (s : State) (p : Parsed) (ms : Int) : String :=
  let z := zone s
  let show_ (form : String) : String :=
    showDate (.ofInstant (ms + z.minutes * 60000)) z form
  let style := if p.has "full-time" then some "full-iso" else p.value? "time-style"
  match style.map (·.toList) with
  | some ('+' :: form) => show_ (String.ofList form)
  | some cs =>
    match String.ofList cs with
    | "full-iso" => show_ "%Y-%m-%d %H:%M:%S.%N %z"
    | "long-iso" => show_ "%Y-%m-%d %H:%M"
    | "iso" => if s.disk.now - ms < recentLength then show_ "%m-%d %H:%M" else show_ "%Y-%m-%d "
    | _ => show_ "%b %e %H:%M"
  | none =>
    if 0 ≤ s.disk.now - ms && s.disk.now - ms < recentLength then show_ "%b %e %H:%M"
    else show_ "%b %e  %Y"

/-- A size in the greatest unit that fits, rounded up. -/
def shortSize (n : Nat) : String :=
  let units := ['K', 'M', 'G', 'T', 'P']
  if n < 1024 then Decimal.natural n
  else
    let step (k : Nat) : Nat := Nat.pow 1024 k
    let k := ((List.range 5).find? fun k => n < step (k + 2)).getD 4 + 1
    let letter := String.ofList [units[k - 1]?.getD 'P']
    let tenths := (n * 10 + (step k - 1)) / step k
    if tenths < 100 then
      Decimal.natural (tenths / 10) ++ "." ++ Decimal.natural (tenths % 10) ++ letter
    else Decimal.natural ((n + (step k - 1)) / step k) ++ letter

def isLong (p : Parsed) : Bool :=
  ["l", "g", "o", "n", "full-time"].any p.has

def padded (width : Nat) (text : String) : String :=
  String.ofList (padLeft width text.toList)

/-- The lines of a listing with all facts. -/
def longLines (s : State) (p : Parsed) (items : List Listed) : List String :=
  let size (f : Facts) : String := if p.has "h" then shortSize f.size else Decimal.natural f.size
  let widest (texts : List String) : Nat := (texts.map String.length).foldl max 0
  let linkWidth := widest (items.map fun item => Decimal.natural item.facts.links)
  let sizeWidth := widest (items.map fun item => size item.facts)
  let owner := if p.has "n" then "0" else "root"
  let owners := (if p.has "g" then [] else [owner]) ++
    (if p.has "o" || p.has "G" then [] else [owner])
  items.map fun item =>
    let f := item.facts
    let arrow := match f.target with
      | some target => " -> " ++ listedName p target
      | none => ""
    let name := if f.target.isSome then listedName p item.name ++ arrow else markedName p item
    " ".intercalate ([f.letters s.disk, padded linkWidth (Decimal.natural f.links)] ++ owners ++
      [padded sizeWidth (size f), listedTime s p f.modified, name])

/-- Names with commas between them, in lines that are no longer than the width. -/
def commaLines (width : Nat) (names : List String) : String :=
  let (text, _) := names.foldl (fun (text, column) name =>
    if text = "" then (name, name.length)
    else if column + 2 + name.length + 1 ≤ width then
      (text ++ ", " ++ name, column + 2 + name.length)
    else (text ++ ",\n" ++ name, name.length)) (("", 0) : String × Nat)
  if names.isEmpty then "" else text ++ "\n"

/-- The text of some listed files. -/
def listing (s : State) (p : Parsed) (total : Bool) (items : List Listed) : String :=
  let items := listOrder p items
  let lead (f : Facts) : String :=
    (if p.has "i" then
      match f.entry with
      | .file id => Decimal.natural (id + 100) ++ " "
      | _ => "99 "
    else "") ++
    (if p.has "s" then Decimal.natural (f.blocks / 2) ++ " " else "")
  if isLong p then
    let blocks := (items.map fun item => item.facts.blocks / 2).foldl (· + ·) 0
    let first := if total then
        let size := if p.has "h" then shortSize (blocks * 1024) else Decimal.natural blocks
        "total " ++ size ++ "\n"
      else ""
    first ++ String.join ((items.zip (longLines s p items)).map fun (item, line) =>
      lead item.facts ++ line ++ "\n")
  else if p.last? ["m", "1", "x", "C"] = some "m" then
    let width := ((p.value? "w").bind fun text => count? text.toList).getD 80
    commaLines width (items.map (markedName p))
  else String.join (items.map fun item => lead item.facts ++ markedName p item ++ "\n")

/-- Whether a name in a directory is listed. -/
def isListed (p : Parsed) (name : String) : Bool :=
  let all := p.has "a" || p.has "A" || p.has "f"
  let fits (pattern : String) : Bool :=
    (patternOf (unmarked pattern.toList)).fits name.toList
  (all || name.toList.head? ≠ some '.') && !(p.values "I").any fits &&
    (all || !(p.values "hide").any fits) &&
    !(p.has "B" && name.toList.getLast? = some '~')

/-- The files of a directory. -/
def listedIn (s : State) (p : Parsed) (path : String) (entries : List (String × Entry)) :
    List Listed :=
  let d := s.disk
  let seen (name : String) (entry : Entry) : Facts :=
    match entry with
    | .link _ =>
      let whole := if path.toList.getLast? = some '/' then path ++ name else path ++ "/" ++ name
      if p.has "L" then factsOf d ((d.look (pathOf whole)).toOption.getD entry)
      else factsOf d entry
    | _ => factsOf d entry
  let items := entries.map fun (name, entry) =>
    let name := inBytes name
    Listed.mk name (seen name entry)
  let dots := if (p.has "a" && p.last? ["a", "A"] = some "a") || p.has "f" then
      [Listed.mk "." (factsOf d (.directory entries)),
        Listed.mk ".." (factsOf d (.directory []))]
    else []
  dots ++ items.filter fun item => isListed p item.name

/-- Directories that are listed, each after a title, with those below where that is asked for. -/
def listDirectories (p : Parsed) (titled : Bool) : Nat → Bool → List (String × Entry) → State →
    State
  | 0, _, _, s => s
  | _ + 1, _, [], s => s
  | fuel + 1, begun, (path, entry) :: rest, s =>
    match entry with
    | .directory entries =>
      let items := listedIn s p path entries
      let title := if titled then (if begun then "\n" else "") ++ path ++ ":\n" else ""
      let s := s.say (title ++ listing s p true items)
      let below := if !p.has "R" then []
        else (listOrder p items).filterMap fun item =>
          if item.facts.isDirectory && item.name ≠ "." && item.name ≠ ".." &&
              (p.has "L" || !(s.disk.readLink (pathOf (path ++ "/" ++ item.name))).isOk) then
            some ((if path.toList.getLast? = some '/' then path else path ++ "/") ++ item.name,
              item.facts.entry)
          else none
      listDirectories p titled fuel true (below ++ rest) s
    | _ => listDirectories p titled fuel begun rest s

def ls : State → List String → State :=
  withOptions "ls" (options "1abcdfghiklmnopqrstuvwxABCDFGHI:LNQRST:UXZw:" [("all", "a"),
    ("almost-all", "A"), ("author", "author"), ("escape", "b"), ("block-size=", "block"),
    ("ignore-backups", "B"), ("color?", "color"), ("directory", "d"), ("classify?", "F"),
    ("file-type", "p"), ("format=", "format"), ("full-time", "full-time"),
    ("group-directories-first", "first"), ("no-group", "G"), ("human-readable", "h"), ("si", "h"),
    ("dereference-command-line", "H"), ("hide=", "hide"), ("inode", "i"), ("ignore=", "I"),
    ("kibibytes", "k"), ("dereference", "L"), ("numeric-uid-gid", "n"), ("literal", "N"),
    ("hide-control-chars", "q"), ("quote-name", "Q"), ("quoting-style=", "quoting"),
    ("reverse", "r"), ("recursive", "R"), ("size", "s"), ("sort=", "sort"), ("time=", "time"),
    ("time-style=", "time-style"), ("tabsize=", "T"), ("width=", "w"), ("context", "Z"),
    ("zero", "zero")]) 2 fun s p =>
    let key (name : String) : String :=
      match name with
      | "size" => "S"
      | "time" => "t"
      | "none" => "U"
      | "extension" => "X"
      | "long" | "verbose" => "l"
      | "commas" => "m"
      | "single-column" => "1"
      | _ => name
    let p := { p with options := p.options.map fun (name, value) =>
      match name, value with
      | "sort", some value | "format", some value => (key value, none)
      | _, _ => (name, value) }
    let names := if p.operands.isEmpty then ["."] else p.operands
    let plain := p.has "d" || ((isLong p || p.has "F") && !p.has "L" && !p.has "H")
    let (s, found) := names.foldl (fun (s, found) name =>
      let seen := s.disk.look (pathOf name)
      match if plain || !seen.isOk then s.disk.lookHere (pathOf name) else seen with
      | .ok entry => (s, found ++ [(name, entry)])
      | .error e =>
        ((s.complain ("ls: cannot access " ++ quotedName name ++ ": " ++ e.words)).finish 2, found))
      (s, ([] : List (String × Entry)))
    let (directories, files) := if p.has "d" then ([], found)
      else found.partition fun (_, entry) => entry.isDirectory
    let s := s.say (listing s p false (files.map fun (name, entry) =>
      Listed.mk name (factsOf s.disk entry)))
    let ordered := listOrder p (directories.map fun (name, entry) =>
      Listed.mk name (factsOf s.disk entry))
    let titled := 1 < names.length || p.has "R"
    listDirectories p titled (s.disk.places.length + 8) (!files.isEmpty)
      (ordered.map fun item => (item.name, item.facts.entry)) s

/-! ### Single facts -/

/-- The words for a kind of file. -/
def kindText (d : Disk) (f : Facts) : String :=
  kindWords d f.entry

/-- A time with all its digits. -/
def fullTime (s : State) (ms : Int) : String :=
  let z := zone s
  showDate (.ofInstant (ms + z.minutes * 60000)) z "%Y-%m-%d %H:%M:%S.%N %z"

/-- What a letter of a form stands for. -/
def factText? (s : State) (name : String) (f : Facts) (c : Char) : Option String :=
  let seconds := Decimal.integer (Int.fdiv f.modified 1000)
  let typeBits := match f.kindLetter s.disk with
    | 'd' => 0o40000
    | 'l' => 0o120000
    | 'c' => 0o20000
    | _ => 0o100000
  match c with
  | 'n' => some name
  | 'N' => some (quotedName name ++ ((f.target.map fun t => " -> " ++ quotedName t).getD ""))
  | 's' => some (Decimal.natural f.size)
  | 'F' => some (kindText s.disk f)
  | 'f' => some (String.ofList (Nat.toDigits 16 (typeBits + f.mode)))
  | 'a' => some (String.ofList (Mode.octal 1 f.mode))
  | 'A' => some (f.letters s.disk)
  | 'h' => some (Decimal.natural f.links)
  | 'u' | 'g' | 't' | 'T' | 'r' | 'R' | 'd' | 'D' => some "0"
  | 'U' | 'G' => some "root"
  | 'i' => some "100"
  | 'm' => some "/"
  | 'b' => some (Decimal.natural f.blocks)
  | 'B' => some "512"
  | 'o' => some "4096"
  | 'W' | 'X' | 'Y' | 'Z' => some seconds
  | 'w' | 'x' | 'y' | 'z' => some (fullTime s f.modified)
  | _ => none

/-- The letters whose text is a number. -/
def isNumberFact (c : Char) : Bool :=
  "saughbBoXYZWtTrRdDi".toList.contains c

/-- A form filled with facts; escapes count only where that is asked for. -/
def factChars (s : State) (escapes : Bool) (name : String) (f : Facts) : Nat → List Char → List Char
  | 0, _ => []
  | _ + 1, [] => []
  | fuel + 1, '%' :: rest =>
    let flags := rest.takeWhile fun c => "-+ 0#\x27".toList.contains c
    let width := (rest.drop flags.length).takeWhile Char.isDigit
    let after := rest.drop (flags.length + width.length)
    let (precision, after) := match after with
      | '.' :: more =>
        let digits := more.takeWhile Char.isDigit
        (some (Numeral.value digits), more.drop digits.length)
      | after => (none, after)
    match after with
    | [] => '%' :: flags ++ width
    | '%' :: after => '%' :: factChars s escapes name f fuel after
    | c :: after =>
      let text := ((factText? s name f c).getD "?").toList
      let text := if isNumberFact c then
          List.replicate (precision.getD 0 - text.length) '0' ++ text
        else text.take (precision.getD text.length)
      let text := if c = 'a' && flags.contains '#' then '0' :: text else text
      let missing := Numeral.value width - text.length
      let shown := if flags.contains '-' then text ++ List.replicate missing ' '
        else if flags.contains '0' && isNumberFact c then List.replicate missing '0' ++ text
        else List.replicate missing ' ' ++ text
      shown ++ factChars s escapes name f fuel after
  | fuel + 1, '\\' :: rest =>
    if !escapes then '\\' :: factChars s escapes name f fuel rest
    else
      let shown := charsFrom (escapeBytes rest).1
      shown ++ factChars s escapes name f fuel (escapeBytes rest).2
  | fuel + 1, c :: rest => c :: factChars s escapes name f fuel rest

/-- What is told of a file when no form is asked for. -/
def usualFacts (s : State) (f : Facts) : String :=
  let time := fullTime s f.modified
  let device := if f.kindLetter s.disk = 'c' then "character special file" else kindText s.disk f
  "  File: %N\n  Size: %-10s\tBlocks: %-10b IO Block: %-6o " ++ device ++
    "\nDevice: 0,0\tInode: %-10i  Links: %h\n" ++
    "Access: (%04a/%A)  Uid: (%5u/%8U)   Gid: (%5g/%8G)\n" ++
    "Access: " ++ time ++ "\nModify: " ++ time ++ "\nChange: " ++ time ++
    "\n Birth: " ++ time ++ "\n"

def stat : State → List String → State :=
  withOptions "stat" (options "c:fLt" [("format=", "c"), ("dereference", "L"),
    ("file-system", "f"), ("printf=", "printf"), ("terse", "t"), ("cached=", "cached")]) 1
    fun s p =>
    if p.operands.isEmpty then misused s "stat" "missing operand" 1
    else p.operands.foldl (fun s name =>
      let found := if p.has "L" then s.disk.look (pathOf name) else s.disk.lookHere (pathOf name)
      match found with
      | .error e => failedTo s "stat" "cannot statx" name e
      | .ok entry =>
        let f := factsOf s.disk entry
        let shown (escapes : Bool) (form : String) : List Char :=
          factChars s escapes name f (form.length + 1) form.toList
        match p.value? "printf", p.value? "c" with
        | some form, _ => put s (shown true form)
        | none, some form => put s (shown false form ++ ['\n'])
        | none, none =>
          let plain := if f.target.isSome then usualFacts s f
            else String.intercalate "%n" ((usualFacts s f).splitOn "%N")
          put s (shown false plain)) s

/-! ### Where links lead -/

/-- The place to which a path leads, as a path. So many of its last names need not be there. -/
def canonical? (d : Disk) (optional : Nat) (name : String) : Except FileError String :=
  match d.reach (pathOf name) with
  | .ok location =>
    match Disk.lookAt location with
    | .ok _ => .ok (placeText location.place)
    | .error e =>
      if e = .notADirectory || optional = 0 then .error e else .ok (placeText location.place)
  | .error e =>
    match optional with
    | 0 | 1 => .error e
    | optional + 1 =>
      let cs := (name.toList.reverse.dropWhile (· = '/')).reverse
      let last := lastName name
      let directory := String.ofList (cs.take (cs.length - last.length))
      let base := canonical? d optional (if directory = "" then "." else directory)
      base.map fun base =>
        if last = ".." then "/" ++ "/".intercalate ((Path.mk base).names.dropLast)
        else if last = "." then base
        else if base = "/" then "/" ++ last
        else base ++ "/" ++ last

/-- How many of the last names need not be there, by the options. -/
def optionalNames (p : Parsed) (keys : List String) (usual : Nat) : Nat :=
  match p.last? keys with
  | some "e" => 0
  | some "m" => 4096
  | some _ => 1
  | none => usual

def readlink : State → List String → State :=
  withOptions "readlink" (options "efmnqsvz" [("canonicalize", "f"), ("canonicalize-existing", "e"),
    ("canonicalize-missing", "m"), ("no-newline", "n"), ("quiet", "q"), ("silent", "s"),
    ("verbose", "v"), ("zero", "z")]) 1 fun s p =>
    if p.operands.isEmpty then misused s "readlink" "missing operand" 1
    else
      let several := 1 < p.operands.length
      let s := if p.has "n" && several then
          s.complain "readlink: ignoring --no-newline with multiple arguments" else s
      let ending := if p.has "z" then ['\x00'] else if p.has "n" && !several then [] else ['\n']
      p.operands.foldl (fun s name =>
        let answer := if ["e", "f", "m"].any p.has then
            canonical? s.disk (optionalNames p ["e", "f", "m"] 1) name
          else (s.disk.readLink (pathOf name)).map fun target => inBytes target.text
        match answer with
        | .ok text => put s (text.toList ++ ending)
        | .error e =>
          let s := if p.last? ["v", "q", "s"] = some "v" then
              s.complain ("readlink: " ++ plainWording name e) else s
          s.finish 1) s

/-- A path without dots, by the words alone. -/
def withoutDots (s : State) (name : String) : String :=
  let here := placeText s.disk.workingDirectory
  let whole := if name.toList.head? = some '/' then name else here ++ "/" ++ name
  let names := (Path.mk whole).names.foldl (fun kept name =>
    if name = ".." then kept.drop 1 else name :: kept) []
  "/" ++ "/".intercalate names.reverse

/-- A path as it is seen from a directory. -/
def seenFrom (start name : String) : String :=
  let a := (Path.mk start).names
  let b := (Path.mk name).names
  let common := ((a.zip b).takeWhile fun (x, y) => x = y).length
  let names := (a.drop common).map (fun _ => "..") ++ b.drop common
  if names.isEmpty then "." else "/".intercalate names

def realpath : State → List String → State :=
  withOptions "realpath" (options "eLmPqsz" [("canonicalize-existing", "e"),
    ("canonicalize-missing", "m"), ("logical", "L"), ("physical", "P"), ("quiet", "q"),
    ("relative-to=", "to"), ("relative-base=", "base"), ("strip", "s"), ("no-symlinks", "s"),
    ("zero", "z")]) 1 fun s p =>
    if p.operands.isEmpty then misused s "realpath" "missing operand" 1
    else p.operands.foldl (fun s name =>
      let answer := if p.has "s" && name ≠ "" then .ok (withoutDots s name)
        else canonical? s.disk (optionalNames p ["e", "m"] 1) name
      match answer with
      | .ok text =>
        let base := ((p.value? "to").or (p.value? "base")).map (withoutDots s)
        let inside := match p.value? "base" with
          | some base => (Path.mk (withoutDots s base)).names.isPrefixOf (Path.mk text).names
          | none => true
        let shown := match base with
          | some base => if inside then seenFrom base text else text
          | none => text
        put s (shown.toList ++ [if p.has "z" then '\x00' else '\n'])
      | .error e =>
        let s := if p.has "q" then s else s.complain ("realpath: " ++ plainWording name e)
        s.finish 1) s

/-! ### Sizes -/

/-- A size in the unit that some options ask for. -/
def diskUse (p : Parsed) (f : Facts) : Nat :=
  let plain := p.has "b" || p.has "apparent"
  let bytes := if plain then (if f.isDirectory then 0 else f.size) else f.blocks * 512
  if p.has "b" then bytes else if p.has "h" then bytes else (bytes + 1023) / 1024

/-- The sizes of an entry and of what is below it, and their total. -/
def usesBelow (d : Disk) (p : Parsed) (path : String) (entry : Entry) :
    List (String × Nat × Bool) × Nat :=
  let own := diskUse p (factsOf d entry)
  match entry with
  | .directory entries =>
    let (lines, total) := below path entries
    (lines ++ [(path, own + total, true)], own + total)
  | _ => ([(path, own, false)], own)
where
  below (path : String) : List (String × Entry) → List (String × Nat × Bool) × Nat
    | [] => ([], 0)
    | (name, entry) :: rest =>
      let (lines, total) := usesBelow d p (path ++ "/" ++ inBytes name) entry
      let (more, others) := below path rest
      (lines ++ more, total + others)

def du : State → List String → State :=
  withOptions "du" (options "abcd:hklmsxDHLPS" [("all", "a"), ("bytes", "b"), ("total", "c"),
    ("max-depth=", "d"), ("human-readable", "h"), ("summarize", "s"),
    ("apparent-size", "apparent"), ("dereference", "L")]) 1 fun s p =>
    let shown (n : Nat) : String := if p.has "h" then shortSize n else Decimal.natural n
    let names := if p.operands.isEmpty then ["."] else p.operands
    let (s, total) := names.foldl (fun (s, total) name =>
      match s.disk.lookHere (pathOf name) with
      | .error e => (failedTo s "du" "cannot access" name e, total)
      | .ok entry =>
        let (lines, sum) := usesBelow s.disk p name entry
        let lines := lines.filter fun (path, _, isDirectory) =>
          path = name || (!p.has "s" && (isDirectory || p.has "a"))
        (s.say (String.join (lines.map fun (path, n, _) => shown n ++ "\t" ++ path ++ "\n")),
          total + sum)) (s, 0)
    if p.has "c" then s.say (shown total ++ "\ttotal\n") else s

/-! ### Modes -/

/-- A mode that looks like an option, and the other arguments. -/
def splitMode : List String → Option String × List String
  | [] => (none, [])
  | "--" :: rest => (none, "--" :: rest)
  | arg :: rest =>
    match arg.toList with
    | '-' :: c :: _ =>
      if "rwxXstugoa,+=01234567".toList.contains c then (some arg, rest)
      else
        let (mode, rest) := splitMode rest
        (mode, arg :: rest)
    | _ =>
      let (mode, rest) := splitMode rest
      (mode, arg :: rest)

/-- The paths of an entry and of all below it, the upper ones first. -/
def pathsFrom (path : String) : Entry → List String
  | .directory entries => path :: below path entries
  | .file _ => [path]
  | .link _ => []
where
  below (path : String) : List (String × Entry) → List String
    | [] => []
    | (name, entry) :: rest => pathsFrom (path ++ "/" ++ inBytes name) entry ++ below path rest

/-- One file given another mode. -/
def changeMode (p : Parsed) (mode : Bool → Nat → Nat) (s : State) (name : String) : State :=
  match s.disk.look (pathOf name) with
  | .error e =>
    if p.has "f" then s.finish 1
    else if (s.disk.readLink (pathOf name)).isOk then
      refuseMode s ("cannot operate on dangling symlink " ++ quotedName name)
    else failedTo s "chmod" "cannot access" name e
  | .ok entry =>
    let old := s.disk.modeOf entry
    let new := mode entry.isDirectory old
    let s := { s with disk := s.disk.setMode new entry }
    let told (bits : Nat) : String :=
      String.ofList (Mode.octal 4 bits) ++ " (" ++ String.ofList (Mode.letters bits) ++ ")"
    if old ≠ new && (p.has "v" || p.has "c") then
      s.say ("mode of " ++ quotedName name ++ " changed from " ++ told old ++ " to " ++ told new ++
        "\n")
    else if p.has "v" then
      s.say ("mode of " ++ quotedName name ++ " retained as " ++ told old ++ "\n")
    else s
where
  refuseMode (s : State) (text : String) : State :=
    (s.complain ("chmod: " ++ text)).finish 1

def chmod (s : State) (args : List String) : State :=
  let (dashed, args) := splitMode args
  withOptions "chmod" (options "Rcfv" [("changes", "c"), ("quiet", "f"), ("silent", "f"),
    ("verbose", "v"), ("recursive", "R"), ("reference=", "ref"), ("preserve-root", "root"),
    ("no-preserve-root", "root")]) 1 (fun s p =>
    let words := dashed.toList ++ p.operands
    let all (mode : Bool → Nat → Nat) (names : List String) : State :=
      let paths := names.flatMap fun name =>
        match if p.has "R" then s.disk.lookHere (pathOf name) else .error .notFound with
        | .ok (.link _) => [name]
        | .ok entry => pathsFrom name entry
        | .error _ => [name]
      paths.foldl (changeMode p mode) s
    match p.value? "ref", words with
    | some reference, names =>
      match s.disk.look (pathOf reference) with
      | .error e => failedTo s "chmod" "failed to get attributes of" reference e
      | .ok entry => all (fun _ _ => s.disk.modeOf entry) names
    | none, [] => misused s "chmod" "missing operand" 1
    | none, mode :: names =>
      if (Mode.after? mode.toList false 0 0).isNone then
        misused s "chmod" ("invalid mode: " ++ quotedName mode) 1
      else if names.isEmpty then
        misused s "chmod" ("missing operand after " ++ quotedName mode) 1
      else all (fun isDirectory old =>
        (Mode.after? mode.toList isDirectory s.disk.mask old).getD old) names) s args

end Montage.Utility
