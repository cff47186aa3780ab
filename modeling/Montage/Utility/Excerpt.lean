import Montage.Utility.Input

/-!
Commands that show files: all of them, their first or last lines, their lines in another order or
with numbers, or how long they are.
-/

namespace Montage.Utility

open Shell

/-! ### Whole files -/

/-- A character as it is shown when it would not be seen. -/
def visible (c : Char) : List Char :=
  let low (n : Nat) : List Char :=
    if n < 32 then ['^', Char.ofNat (n + 64)]
    else if n = 127 then ['^', '?']
    else [Char.ofNat n]
  if c.toNat < 128 then low c.toNat else 'M' :: '-' :: low (c.toNat - 128)

structure CatStyle where
  number : Bool
  onlyFilled : Bool
  squeeze : Bool
  ends : Bool
  tabs : Bool
  invisible : Bool

/-- How far numbering is: the lines so far, whether a new one begins, and the empty lines before. -/
structure CatPlace where
  line : Nat
  fresh : Bool
  empties : Nat

def CatStyle.char (style : CatStyle) (c : Char) : List Char :=
  if c = '\t' then if style.tabs then ['^', 'I'] else [c]
  else if style.invisible then visible c
  else [c]

/-- One line in a style; nothing when it is an empty one too many. -/
def CatStyle.line (style : CatStyle) (place : CatPlace) (line : List Char) :
    List Char × CatPlace :=
  let isEmpty := place.fresh && line = ['\n']
  let empties := if isEmpty then place.empties + 1 else 0
  if style.squeeze && 1 < empties then ([], { place with empties := empties })
  else
    let numbered := place.fresh && style.number && !(style.onlyFilled && isEmpty)
    let count := if numbered then place.line + 1 else place.line
    let lead := if numbered then padLeft 6 (Decimal.digits count) ++ ['\t'] else []
    let body := (bareLine '\n' line).flatMap style.char
    let ended := line.getLast? = some '\n'
    let ending := if !ended then [] else if style.ends then ['$', '\n'] else ['\n']
    (lead ++ body ++ ending, ⟨count, ended, empties⟩)

def cat : State → List String → State :=
  withOptions "cat" (options "AbeEnstTuv" [("show-all", "A"), ("number-nonblank", "b"),
    ("show-ends", "E"), ("number", "n"), ("squeeze-blank", "s"), ("show-tabs", "T"),
    ("show-nonprinting", "v")]) 1 fun s p =>
    let any (keys : List String) : Bool := keys.any p.has
    let style : CatStyle :=
      { number := any ["b", "n"]
        onlyFilled := p.has "b"
        squeeze := p.has "s"
        ends := any ["A", "e", "E"]
        tabs := any ["A", "t", "T"]
        invisible := any ["A", "e", "t", "v"] }
    let plain := !any ["A", "b", "e", "E", "n", "s", "t", "T", "v"]
    (foldFiles "cat" plainWording p.operands (fun s place name cs =>
      if isOutput s name && !cs.isEmpty then
        ((s.complain ("cat: " ++ shownName name ++ ": input file is output file")).finish 1, place)
      else if plain then (put s cs, place)
      else
        let (shown, place) := (linesOf cs).foldl (fun (shown, place) line =>
          let (text, place) := style.line place line
          (text :: shown, place)) (([] : List (List Char)), place)
        (put s shown.reverse.flatten, place)) s (⟨0, true, 0⟩ : CatPlace)).1

/-! ### Beginnings and ends -/

/-- A count of lines or bytes that is given with an option. -/
structure Extent where
  bytes : Bool
  /-- A sign in front, which changes what is meant. -/
  marked : Bool
  count : Nat

/-- The extent that options ask for. -/
def extentOf (command : String) (mark : Char) (p : Parsed) : Except String Extent :=
  match p.last? ["c", "n"] with
  | none => .ok ⟨false, false, 10⟩
  | some key =>
    let text := (p.value? key).getD ""
    let cs := text.toList
    let body := if cs.head? = some '-' || cs.head? = some '+' then cs.drop 1 else cs
    match count? body with
    | some n => .ok ⟨key = "c", cs.head? = some mark, n⟩
    | none =>
      let what := if key = "c" then "bytes" else "lines"
      .error (command ++ ": invalid number of " ++ what ++ ": " ++ quotedWord text)

/-- The title of a file among several. -/
def title (first : Bool) (name : String) : List Char :=
  let shown := if name = "-" then "standard input" else name
  ((if first then "" else "\n") ++ "==> " ++ shown ++ " <==\n").toList

/-- Whether titles are shown. -/
def showsTitles (p : Parsed) : Bool :=
  match p.last? ["q", "v"] with
  | some key => key = "v"
  | none => 1 < p.operands.length

/-- The number in an old form of the options, such as `-5`, as an option of its own. -/
def modernized (args : List String) : List String :=
  match args with
  | first :: rest =>
    match first.toList with
    | '-' :: c :: more =>
      let digits := (c :: more).takeWhile Char.isDigit
      let letters := (c :: more).drop digits.length
      if digits.isEmpty then args
      else
        let number := String.ofList digits
        let unit := letters.filter fun c => c = 'c' || c = 'l'
        let key := if unit.getLast? = some 'c' then "-c" else "-n"
        let others := (letters.filter fun c => c ≠ 'c' && c ≠ 'l').map fun c =>
          String.ofList ['-', c]
        [key, number] ++ others ++ rest
    | _ => args
  | [] => []

def Extent.first (e : Extent) (ending : Char) (cs : List Char) : List Char :=
  let pick {α : Type} (xs : List α) : List α :=
    xs.take (if e.marked then xs.length - e.count else e.count)
  if e.bytes then pick cs else (pick (linesBy ending cs)).flatten

/-- The size of the pieces in which a stream is read. -/
def blockSize : Nat :=
  8192

/-- What is left of a stream of which a part has been used. One that cannot be read again has given
away the whole piece. -/
def leftOver (s : State) (e : Extent) (used : Nat) (bytes : Text.Bytes) : Text.Bytes :=
  if e.marked then if s.isSeekable 0 then bytes.drop used else []
  else if s.isSeekable 0 || e.bytes then bytes.drop used
  else bytes.drop ((used + (blockSize - 1)) / blockSize * blockSize)

def head (s : State) (args : List String) : State :=
  withOptions "head" (options "c:n:qvz" [("bytes=", "c"), ("lines=", "n"), ("quiet", "q"),
    ("silent", "q"), ("verbose", "v"), ("zero-terminated", "z")]) 1 (fun s p =>
    match extentOf "head" '-' p with
    | .error text => (s.complain text).finish 1
    | .ok e =>
      let ending := if p.has "z" then Char.ofNat 0 else '\n'
      (foldFiles "head" openWording p.operands (fun s isFirst name cs =>
        let shown := e.first ending cs
        let lead := if showsTitles p then title isFirst name else []
        let s := if name = "-" then s.leaveWaiting 0 (leftOver s e shown.length (bytesOf cs)) else s
        (put s (lead ++ shown), false)) s true).1) s (modernized args)

def Extent.last (e : Extent) (ending : Char) (cs : List Char) : List Char :=
  let pick {α : Type} (xs : List α) : List α :=
    xs.drop (if e.marked then e.count - 1 else xs.length - e.count)
  if e.bytes then pick cs else (pick (linesBy ending cs)).flatten

/-- The old form of an option that tells the first line. -/
def withPlus (args : List String) : List String :=
  match args with
  | first :: rest =>
    match first.toList with
    | '+' :: digits =>
      if !digits.isEmpty && digits.all Char.isDigit then "-n" :: first :: rest else args
    | _ => modernized args
  | [] => []

def tail (s : State) (args : List String) : State :=
  withOptions "tail" (options "c:fFn:qs:vz" [("bytes=", "c"), ("lines=", "n"), ("quiet", "q"),
    ("silent", "q"), ("verbose", "v"), ("follow?", "f"), ("pid=", "pid"), ("retry", "retry"),
    ("sleep-interval=", "s"), ("zero-terminated", "z")]) 1 (fun s p =>
    match extentOf "tail" '+' p with
    | .error text => (s.complain text).finish 1
    | .ok e =>
      let ending := if p.has "z" then Char.ofNat 0 else '\n'
      let wording : Wording := fun name e =>
        if e = .badStream then "cannot fstat " ++ quotedInput name ++ ": " ++ e.words
        else openWording name e
      (foldFiles "tail" wording p.operands (fun s isFirst name cs =>
        let lead := if showsTitles p then title isFirst name else []
        (put s (lead ++ e.last ending cs), false)) s true).1) s (withPlus args)

/-! ### Other orders -/

def tac : State → List String → State :=
  withOptions "tac" (options "brs:" [("before", "b"), ("regex", "r"), ("separator=", "s")]) 1
    fun s p =>
      let wording : Wording := fun name e =>
        let shown := if name = "-" then quotedInput name else shownName name
        if e = .isADirectory then shown ++ ": read error: Invalid argument"
        else if e = .badStream then shown ++ ": read error: " ++ e.words
        else "failed to open " ++ quotedName name ++ " for reading: " ++ e.words
      eachFile "tac" wording p.operands (fun s _ cs => put s (linesOf cs).reverse.flatten) s

def rev : State → List String → State :=
  withOptions "rev" (options "0" [("zero", "0")]) 1 fun s p =>
    let wording : Wording := fun name e => "cannot open " ++ name ++ ": " ++ e.words
    eachFile "rev" wording p.operands (fun s _ cs => put s ((linesOf cs).flatMap fun line =>
      (bareLine '\n' line).reverse ++ (if line.getLast? = some '\n' then ['\n'] else []))) s

/-! ### Numbers of lines -/

/-- Which lines get a number. -/
inductive Numbered
  | all
  | filled
  | none

def numbered? (text : String) : Option Numbered :=
  match text with
  | "a" => some .all
  | "t" => some .filled
  | "n" => some .none
  | _ => Option.none

/-- A number in a column. -/
def columnNumber (form : String) (width n : Nat) : List Char :=
  let cs := Decimal.digits n
  match form with
  | "ln" => cs ++ List.replicate (width - cs.length) ' '
  | "rz" => List.replicate (width - cs.length) '0' ++ cs
  | _ => padLeft width cs

def nl : State → List String → State :=
  withOptions "nl" (options "b:d:f:h:i:l:n:ps:v:w:" [("body-numbering=", "b"),
    ("line-increment=", "i"), ("number-format=", "n"), ("number-separator=", "s"),
    ("starting-line-number=", "v"), ("number-width=", "w"), ("join-blank-lines=", "l"),
    ("header-numbering=", "h"), ("footer-numbering=", "f"), ("no-renumber", "p"),
    ("section-delimiter=", "d")]) 1 fun s p =>
    let number (key : String) (usual : Nat) : Nat :=
      ((p.value? key).bind fun text => count? text.toList).getD usual
    let width := number "w" 6
    let mark := ((p.value? "s").getD "\t").toList
    let style := numbered? ((p.value? "b").getD "t")
    match style with
    | Option.none =>
      misused s "nl" ("invalid body numbering style: " ++ quotedWord ((p.value? "b").getD "")) 1
    | some style =>
      let blank := List.replicate (width + mark.length) ' '
      (foldFiles "nl" plainWording p.operands (fun s n _ cs =>
        let (shown, n) := (bareLines '\n' cs).foldl (fun (shown, n) line =>
          let counts := match style with
            | .all => true
            | .filled => !line.isEmpty
            | .none => false
          if counts then
            let lead := columnNumber ((p.value? "n").getD "rn") width n ++ mark
            ((lead ++ line) :: shown, n + number "i" 1)
          else ((blank ++ line) :: shown, n)) (([] : List (List Char)), n)
        (put s (joinLines '\n' shown.reverse), n)) s (number "v" 1)).1

/-! ### Counts -/

/-- What is counted: lines, words, characters, bytes, and the longest line. -/
structure Counts where
  lines : Nat
  words : Nat
  bytes : Nat
  longest : Nat

def Counts.add (a b : Counts) : Counts :=
  ⟨a.lines + b.lines, a.words + b.words, a.bytes + b.bytes, max a.longest b.longest⟩

def isSpace (c : Char) : Bool :=
  c = ' ' || ('\t' ≤ c && c ≤ '\r')

def wordCount (cs : List Char) : Nat :=
  (cs.foldl (fun (n, inWord) c =>
    if isSpace c then (n, false)
    else if isPrintable c then (if inWord then n else n + 1, true)
    else (n, inWord)) (0, false)).1

/-- How many columns a line takes. -/
def columns (line : List Char) : Nat :=
  (line.foldl (fun (longest, n) c =>
    let n := if c = '\t' then (n / 8 + 1) * 8
      else if c = '\r' || c = '\x0c' then 0
      else if isPrintable c then n + 1
      else n
    (max longest n, n)) ((0, 0) : Nat × Nat)).1

def countsOf (cs : List Char) : Counts :=
  ⟨cs.count '\n', wordCount cs, cs.length,
    ((bareLines '\n' cs).map columns).foldl max 0⟩

/-- The counts that are asked for, in columns. -/
def countLine (p : Parsed) (width : Nat) (c : Counts) (name : Option String) : List Char :=
  let all := !(["l", "w", "c", "m", "L"].any p.has)
  let shown := (if all || p.has "l" then [c.lines] else []) ++
    (if all || p.has "w" then [c.words] else []) ++
    (if p.has "m" then [c.bytes] else []) ++
    (if all || p.has "c" then [c.bytes] else []) ++
    (if p.has "L" then [c.longest] else [])
  let columns := shown.map fun n => padLeft width (Decimal.digits n)
  [' '].intercalate columns ++ ((name.map fun name => ' ' :: (shownName name).toList).getD []) ++
    ['\n']

/-- How wide the columns of counts are, by the sizes of the files. -/
def countWidth (s : State) (p : Parsed) : Nat :=
  let single := (["l", "w", "c", "m", "L"].filter p.has).length = 1
  let names := if p.operands.isEmpty then ["-"] else p.operands
  let file? (name : String) : Option Content :=
    if name = "-" then
      match s.stream? 0 with
      | some (.file n) => s.opened[n]?.map fun file => s.disk.content file.id
      | _ => none
    else match s.disk.look (pathOf name) with
      | .ok (.file id) => some (s.disk.content id)
      | _ => none
  let isOdd (name : String) : Bool :=
    match file? name with
    | some content => content.isDevice
    | none => if name = "-" then (s.stream? 0).isSome else s.disk.isThere (pathOf name)
  if names.length = 1 && single then 1
  else
    let total := ((names.filterMap file?).map fun content => content.bytes.length).foldl (· + ·) 0
    max (Decimal.digits total).length (if names.any isOdd then 7 else 1)

def wc : State → List String → State :=
  withOptions "wc" (options "clLmw" [("bytes", "c"), ("chars", "m"), ("lines", "l"), ("words", "w"),
    ("max-line-length", "L"), ("total=", "total"), ("files0-from=", "from")]) 1 fun s p =>
    let width := countWidth s p
    let shows := p.value? "total" ≠ some "only"
    let names := if p.operands.isEmpty then ["-"] else p.operands
    let (s, total, number) := names.foldl (fun (s, total, number) name =>
      let shown := if p.operands.isEmpty then none else some name
      match content s name with
      | .ok (s, bytes) =>
        let c := countsOf (charsFrom bytes)
        (if shows then put s (countLine p width c shown) else s, total.add c, number + 1)
      | .error e =>
        let what := if shown.isNone then quotedInput name ++ ": " ++ e.words
          else plainWording name e
        let s := (s.complain ("wc: " ++ what)).finish 1
        let empty : Counts := ⟨0, 0, 0, 0⟩
        let isOpen := e = .isADirectory || e = .badStream
        (if isOpen && shows then put s (countLine p width empty shown) else s, total, number + 1)) (s, (⟨0, 0, 0, 0⟩ : Counts), 0)
    closeInput "wc" names (match (p.value? "total").getD "auto" with
      | "never" => s
      | "only" => put s (countLine p 1 total none)
      | "always" => put s (countLine p width total (some "total"))
      | _ => if 1 < number then put s (countLine p width total (some "total")) else s)

/-! ### Copies -/

/-- The stream that is read, written on and also kept in files. -/
def tee : State → List String → State :=
  withOptions "tee" (options "aip" [("append", "a"), ("ignore-interrupts", "i"),
    ("output-error?", "p")]) 1 fun s p =>
    let (s, bytes) := drain "tee" s
    let keep (d : Disk) (path : Path) : Except FileError Disk :=
      if p.has "a" then (d.openFile path).map fun (d, id) => d.append id bytes
      else d.write path bytes
    closeInput "tee" [] (p.operands.foldl (fun s name =>
      match keep s.disk (pathOf name) with
      | .ok disk => { s with disk := disk }
      | .error e => (s.complain ("tee: " ++ plainWording name e)).finish 1) (s.write 1 bytes))

/-- How many bytes are made of what has no end. -/
def endlessSize : Nat :=
  1048576

/-- A line again and again. -/
def yes (s : State) (args : List String) : State :=
  let args := if args.head? = some "--" then args.drop 1 else args
  let line := bytesOf ((" ".intercalate (if args.isEmpty then ["y"] else args)).toList ++ ['\n'])
  let count := endlessSize / line.length + 1
  (s.write 1 (List.replicate count line).flatten).finish (128 + Signal.brokenPipe)

end Montage.Utility
