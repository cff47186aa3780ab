import Montage.Text.Lines
import Montage.Utility.Input

/-!
Commands that work on the columns of lines: parts of lines, lines side by side, lines of a given
width, and lines of two files that belong together.
-/

namespace Montage.Utility

open Shell

/-! ### Parts of lines -/

/-- A range of positions; without an end it goes on. -/
abbrev Positions := Nat × Option Nat

/-- What kinds of parts are chosen. -/
inductive Portion
  | char
  | field
  deriving DecidableEq

/-- One range of a list, or what is wrong with it. -/
def positions (unit : Portion) (cs : List Char) : Except String Positions :=
  let bad : String :=
    (if unit = .field then "invalid field value " else "invalid byte/character position ") ++
      quotedWord (String.ofList cs)
  let zero := if unit = .field then "fields are numbered from 1"
    else "byte/character positions are numbered from 1"
  let digits (cs : List Char) : Bool := cs.all Char.isDigit
  let low := cs.takeWhile (· ≠ '-')
  match cs.drop low.length with
  | [] =>
    if low.isEmpty || !digits low then .error bad
    else if Numeral.value low = 0 then .error zero
    else .ok (Numeral.value low, some (Numeral.value low))
  | _ :: high =>
    if !digits low || !digits high then .error bad
    else if low.isEmpty && high.isEmpty then .error "invalid range with no endpoint: -"
    else if !low.isEmpty && Numeral.value low = 0 then .error zero
    else
      let first := if low.isEmpty then 1 else Numeral.value low
      if high.isEmpty then .ok (first, none)
      else if Numeral.value high < first then .error "invalid decreasing range"
      else .ok (first, some (Numeral.value high))

def isIn (range : Positions) (i : Nat) : Bool :=
  range.1 ≤ i && range.2.all (i ≤ ·)

/-- The items at the positions that are asked for, those that follow one another in one list. -/
def chosen {α : Type} (ranges : List Positions) (complement : Bool) (xs : List α) :
    List (List α) :=
  let marked := (xs.zipIdx 1).filterMap fun (x, i) =>
    let range := ranges.findIdx? (isIn · i)
    if complement then if range.isSome then none else some (x, i)
    else range.map fun _ => (x, i)
  let joined : α × Nat → α × Nat → Bool
    | (_, i), (_, j) => j = i + 1 && (complement || ranges.any fun r => isIn r i && isIn r j)
  (marked.splitBy joined).map fun group => group.map (·.1)

/-- What is cut out of every line. -/
structure Cutting where
  unit : Portion
  ranges : List Positions
  complement : Bool
  mark : Char
  onlyMarked : Bool
  joint : Option (List Char)

def Cutting.line (c : Cutting) (line : List Char) : Option (List Char) :=
  match c.unit with
  | .char => some ((c.joint.getD []).intercalate (chosen c.ranges c.complement line))
  | .field =>
    if line.contains c.mark then
      let fields := Text.splitOn (· = c.mark) line
      some ((c.joint.getD [c.mark]).intercalate (chosen c.ranges c.complement fields).flatten)
    else if c.onlyMarked then none
    else some line

/-- What the options of `cut` ask for. -/
def cuttingOf (p : Parsed) : Except String Cutting := do
  let lists := p.options.filter fun given => ["b", "c", "f"].contains given.1
  match lists with
  | [] => .error "you must specify a list of bytes, characters, or fields"
  | [(key, text)] =>
    let unit := if key = "f" then Portion.field else Portion.char
    let parts := Text.splitOn (fun c => c = ',' || c = ' ' || c = '\t') (text.getD "").toList
    let ranges ← parts.mapM (positions unit)
    if unit = .char && p.has "d" then
      .error "an input delimiter may be specified only when operating on fields"
    else if unit = .char && p.has "s" then
      .error "suppressing non-delimited lines makes sense\n\tonly when operating on fields"
    else
      let mark ← match ((p.value? "d").getD "\t").toList with
        | [] => .ok (Char.ofNat 0)
        | [c] => .ok c
        | _ => .error "the delimiter must be a single character"
      .ok
        { unit := unit
          ranges := ranges
          complement := p.has "complement"
          mark := mark
          onlyMarked := p.has "s"
          joint := (p.value? "joint").map String.toList }
  | _ => .error "only one list may be specified"

def cut : State → List String → State :=
  withOptions "cut" (options "b:c:d:f:nsz" [("bytes=", "b"), ("characters=", "c"),
    ("fields=", "f"), ("delimiter=", "d"), ("only-delimited", "s"), ("complement", "complement"),
    ("output-delimiter=", "joint"), ("zero-terminated", "z")]) 1 fun s p =>
    match cuttingOf p with
    | .error what => misused s "cut" what 1
    | .ok c =>
      let ending := if p.has "z" then Char.ofNat 0 else '\n'
      eachFile "cut" plainWording p.operands (fun s _ cs =>
        put s (joinLines ending ((bareLines ending cs).filterMap c.line))) s

/-! ### Lines side by side -/

/-- The marks between columns, with their escapes; an empty one is possible. -/
def marksOf : List Char → List (List Char)
  | [] => []
  | '\\' :: 'n' :: rest => ['\n'] :: marksOf rest
  | '\\' :: 't' :: rest => ['\t'] :: marksOf rest
  | '\\' :: '0' :: rest => [] :: marksOf rest
  | '\\' :: c :: rest => [c] :: marksOf rest
  | c :: rest => [c] :: marksOf rest

/-- Texts joined by marks in turn. -/
def joinInTurn (marks : List (List Char)) (texts : List (List Char)) : List Char :=
  let count := max marks.length 1
  (texts.zipIdx.flatMap fun (text, i) =>
    if i = 0 then text else (marks[(i - 1) % count]?.getD []) ++ text)

/-- The lines of each column in rows; columns that have ended stay empty. -/
def rows (count : Nat) (columns : List (List (List Char))) : List (List (List Char)) :=
  (List.range count).map fun i => columns.map fun lines => lines[i]?.getD []

/-- The lines for each name; a name that stands for the stream several times takes its lines in
turn. -/
def columnLines (ending : Char) (streamed : List (List Char)) (names : List String)
    (contents : List (Option (List Char))) : List (List (List Char)) :=
  let dashes := (names.filter (· = "-")).length
  ((names.zip contents).zipIdx).map fun ((name, cs), i) =>
    if name = "-" then
      let turn := ((names.take i).filter (· = "-")).length
      (streamed.zipIdx.filter fun (_, j) => j % dashes = turn).map (·.1)
    else bareLines ending (cs.getD [])

def paste : State → List String → State :=
  withOptions "paste" (options "d:sz" [("delimiters=", "d"), ("serial", "s"),
    ("zero-terminated", "z")]) 1 fun s p =>
    let ending := if p.has "z" then Char.ofNat 0 else '\n'
    let marks := marksOf ((p.value? "d").getD "\t").toList
    if p.has "s" then
      eachFile "paste" plainWording p.operands (fun s _ cs =>
        put s (joinInTurn marks (bareLines ending cs) ++ [ending])) s
    else
      let names := if p.operands.isEmpty then ["-"] else p.operands
      let missing := names.find? fun name => name ≠ "-" && !(content s name).isOk
      match missing with
      | some name =>
        match content s name with
        | .error e => (s.complain ("paste: " ++ plainWording name e)).finish 1
        | .ok _ => s
      | none =>
        let (s, bytes) := if names.contains "-" then drain "paste" s else (s, [])
        let contents := names.map fun name =>
          (content s name).toOption.map fun (_, bytes) => charsFrom bytes
        let columns := columnLines ending (bareLines ending (charsFrom bytes)) names contents
        let count := (columns.map List.length).foldl max 0
        put s (joinLines ending ((rows count columns).map (joinInTurn marks)))

/-! ### Lines of a given width -/

/-- The column after a character. -/
def nextColumn (bytewise : Bool) (column : Nat) (c : Char) : Nat :=
  if bytewise then column + 1
  else match c with
    | '\x08' => column - 1
    | '\r' => 0
    | '\t' => column + 8 - column % 8
    | _ => column + 1

/-- How long lines may be, and where they are broken. -/
structure Folding where
  width : Nat
  bytewise : Bool
  atBlanks : Bool

/-- The characters that have been kept for the next line, the last first, and their column. -/
def Folding.step (f : Folding) (state : List (List Char) × List Char × Nat) (c : Char) :
    List (List Char) × List Char × Nat :=
  let (done, kept, column) := state
  let widthOf (cs : List Char) : Nat := cs.foldl (nextColumn f.bytewise) 0
  if c = '\n' then ((c :: kept).reverse :: done, [], 0)
  else
    let next := nextColumn f.bytewise column c
    if next ≤ f.width then (done, c :: kept, next)
    else
      let after := kept.takeWhile fun c => !(c = ' ' || c = '\t')
      if f.atBlanks && after.length < kept.length then
        let before := kept.drop after.length
        (('\n' :: before).reverse :: done, c :: after, widthOf (c :: after).reverse)
      else if kept.isEmpty then (done, [c], next)
      else (('\n' :: kept).reverse :: done, [c], nextColumn f.bytewise 0 c)

def Folding.apply (f : Folding) (cs : List Char) : List Char :=
  let (done, kept, _) := cs.foldl f.step ([], [], 0)
  (kept.reverse :: done).reverse.flatten

/-- The width in the old form of an option. -/
def withWidth (args : List String) : List String :=
  args.map fun arg =>
    match arg.toList with
    | '-' :: c :: rest =>
      if (c :: rest).all Char.isDigit then "-w" ++ String.ofList (c :: rest) else arg
    | _ => arg

def fold (s : State) (args : List String) : State :=
  withOptions "fold" (options "bsw:" [("bytes", "b"), ("spaces", "s"), ("width=", "w")]) 1
    (fun s p =>
      let text := (p.value? "w").getD "80"
      match Numeral.natural? (pow2 63) text.toList with
      | some (n + 1) =>
        let f : Folding := ⟨n + 1, p.has "b", p.has "s"⟩
        eachFile "fold" plainWording p.operands (fun s _ cs => put s (f.apply cs)) s
      | found =>
        let why := if found.isSome then ": Numerical result out of range" else ""
        (s.complain ("fold: invalid number of columns: " ++ quotedWord text ++ why)).finish 1)
    s (withWidth args)

/-- Blanks in the place of tabs. -/
def expandTabs (width : Nat) (onlyFirst : Bool) (line : List Char) : List Char :=
  (line.foldl (fun ((out, column, leading) : List Char × Nat × Bool) c =>
    if c = '\t' && (leading || !onlyFirst) then
      let next := (column / width + 1) * width
      (List.replicate (next - column) ' ' ++ out, next, leading)
    else
      (c :: out, if c = '\x08' then column - 1 else column + 1, leading && c = ' '))
    ([], 0, true)).1.reverse

def expand : State → List String → State :=
  withOptions "expand" (options "it:" [("initial", "i"), ("tabs=", "t")]) 1 fun s p =>
    let width := ((p.value? "t").bind fun text => Numeral.natural? (pow2 31) text.toList).getD 8
    eachFile "expand" plainWording p.operands (fun s _ cs =>
      put s ((linesOf cs).flatMap (expandTabs (max width 1) (p.has "i")))) s

/-- Tabs in the place of blanks that end at a tab stop, at the beginning of a line. -/
def unexpandTabs (width : Nat) (everywhere : Bool) (line : List Char) : List Char :=
  let flush (blanks : Nat) : List Char := List.replicate blanks ' '
  let (out, blanks, _, _) := line.foldl
    (fun ((out, blanks, column, leading) : List Char × Nat × Nat × Bool) c =>
      if c = ' ' && (leading || everywhere) then
        let column := column + 1
        if column % width = 0 then
          if blanks = 0 && !leading then (' ' :: out, 0, column, leading)
          else ('\t' :: out, 0, column, leading)
        else (out, blanks + 1, column, leading)
      else if c = '\t' then ('\t' :: out, 0, (column / width + 1) * width, leading)
      else (c :: (flush blanks ++ out), 0, column + 1, false)) ([], 0, 0, true)
  (flush blanks ++ out).reverse

def unexpand : State → List String → State :=
  withOptions "unexpand" (options "at:" [("all", "a"), ("tabs=", "t"), ("first-only", "first")]) 1
    fun s p =>
      let width := ((p.value? "t").bind fun text => Numeral.natural? (pow2 31) text.toList).getD 8
      let everywhere := (p.has "a" || p.has "t") && !p.has "first"
      eachFile "unexpand" plainWording p.operands (fun s _ cs =>
        put s ((linesOf cs).flatMap (unexpandTabs (max width 1) everywhere))) s

/-! ### Lines of two files -/

def before (a b : List Char) : Bool :=
  decide (String.ofList a < String.ofList b)

/-- A file whose lines are taken one by one. -/
structure Queue where
  left : List (List Char)
  /-- The lines before them, the latest first. -/
  past : List (List Char)
  /-- It has been found out of order. -/
  isWrong : Bool

/-- The queue without its first line, and whether it is found out of order now. The line after that
one shows it, or at the end the line before it. -/
def Queue.step (checks : Bool) (q : Queue) : Queue × Bool :=
  match q.left with
  | [] => (q, false)
  | line :: left =>
    let isWrong : Bool := match left, q.past with
      | next :: _, _ => before next line
      | [], earlier :: _ => before line earlier
      | [], [] => false
    let isFound := checks && isWrong && !q.isWrong
    (⟨left, line :: q.past, q.isWrong || isFound⟩, isFound)

/-- What comes of putting the lines of two files in order. -/
inductive Merged
  | line (column : Nat) (text : List Char)
  /-- A file has been found out of order. -/
  | disorder (file : Nat)

/-- The lines of two files in order, each with the number of the column it belongs to. Whether the
order is looked at hangs on whether a line without a partner has been found. -/
def merged (checks : Bool → Bool) : Nat → Queue → Queue → Bool → List Merged
  | 0, _, _, _ => []
  | fuel + 1, a, b, lone =>
    let next? := match a.left, b.left with
      | [], [] => none
      | x :: _, [] => some (1, x)
      | [], y :: _ => some (2, y)
      | x :: _, y :: _ => some (if x = y then (3, y) else if before x y then (1, x) else (2, y))
    match next? with
    | none => []
    | some (column, text) =>
      let lone := lone || column ≠ 3
      let (a, wrongA) := if column ≠ 2 then a.step (checks lone) else (a, false)
      let (b, wrongB) := if column ≠ 1 then b.step (checks lone) else (b, false)
      .line column text :: (if wrongA then [.disorder 1] else []) ++
        (if wrongB then [.disorder 2] else []) ++ merged checks fuel a b lone

/-- A command that needs exactly two files. -/
def withTwoFiles (command : String) (body : State → List Char → List Char → State) (s : State)
    (names : List String) : State :=
  match names with
  | [] => misused s command "missing operand" 1
  | [a] => misused s command ("missing operand after " ++ quotedWord a) 1
  | [a, b] =>
    let fails (name : String) (e : FileError) : State :=
      (s.complain (command ++ ": " ++ plainWording name e)).finish 1
    match content s a with
    | .error e => fails a e
    | .ok (s, first) =>
      match content s b with
      | .error e => fails b e
      | .ok (s, second) => body s (charsFrom first) (charsFrom second)
  | _ :: _ :: c :: _ => misused s command ("extra operand " ++ quotedWord c) 1

def comm : State → List String → State :=
  withOptions "comm" (options "123z" [("check-order", "check"), ("nocheck-order", "nocheck"),
    ("output-delimiter=", "joint"), ("total", "total"), ("zero-terminated", "z")]) 1 fun s p =>
    let mark := ((p.value? "joint").getD "\t").toList
    let hidden (n : Nat) : Bool := p.has (Decimal.natural n)
    let lead (n : Nat) : List Char :=
      ((List.range (n - 1)).filter fun i => !hidden (i + 1)).flatMap fun _ => mark
    let ending := if p.has "z" then Char.ofNat 0 else '\n'
    let checks (lone : Bool) : Bool := p.has "check" || (lone && !p.has "nocheck")
    withTwoFiles "comm" (fun s a b =>
      let queue (cs : List Char) : Queue := ⟨bareLines ending cs, [], false⟩
      let found := merged checks (a.length + b.length + 1) (queue a) (queue b) false
      let wrong (s : State) (what : String) : State :=
        (s.complain ("comm: " ++ what ++ " is not in sorted order")).finish 1
      let (s, isOver) := found.foldl (fun (s, isOver) step =>
        if isOver then (s, true)
        else match step with
          | .line n text =>
            (if hidden n then s else put s (lead n ++ text ++ [ending]), false)
          | .disorder n => (wrong s ("file " ++ Decimal.natural n), p.has "check")) (s, false)
      let count (column : Nat) : List Char :=
        Decimal.digits (found.filter fun
          | .line n _ => n = column
          | .disorder _ => false).length ++ mark
      if isOver then s
      else
        let s := if p.has "total" then
            put s (count 1 ++ count 2 ++ count 3 ++ "total".toList ++ [ending])
          else s
        if s.status = 0 then s else wrong s "input") s p.operands

/-- The fields of a line, apart by a mark or by blanks. -/
def fieldsBy (mark : Option Char) (line : List Char) : List (List Char) :=
  match mark with
  | some c => Text.splitOn (· = c) line
  | none => (Text.splitOn (fun c => c = ' ' || c = '\t') line).filter (!·.isEmpty)

/-- How lines are joined. -/
structure Joining where
  mark : Option Char
  first : Nat
  second : Nat
  /-- Lines without a partner that are shown as well: of the first, of the second file. -/
  lone : List String
  onlyLone : Bool
  shape : Option (List String)
  filler : List Char

namespace Joining

def keyIn (column : Nat) (fields : List (List Char)) : List Char :=
  fields[column - 1]?.getD []

def row (j : Joining) (key : List Char) (a b : Option (List (List Char))) : List Char :=
  let field (found : Option (List Char)) : List Char :=
    match found with
    | some [] | none => j.filler
    | some cs => cs
  let mark := [j.mark.getD ' ']
  match j.shape with
  | some names =>
    mark.intercalate (names.map fun name =>
      match (Text.splitOn (· = '.') name.toList).map String.ofList with
      | ["1", n] => field (a.bind fun fields => fields[Numeral.value n.toList - 1]?)
      | ["2", n] => field (b.bind fun fields => fields[Numeral.value n.toList - 1]?)
      | _ => field (some key))
  | none =>
    let others (column : Nat) (fields : Option (List (List Char))) : List (List Char) :=
      (fields.getD []).eraseIdx (column - 1)
    mark.intercalate (key :: others j.first a ++ others j.second b)

/-- The rows of two sorted files. -/
def rows (j : Joining) (fuel : Nat) (as bs : List (List (List Char))) : List (List Char) :=
  match fuel with
  | 0 => []
  | fuel + 1 =>
    let lone1 (a : List (List Char)) : List (List Char) :=
      if j.lone.contains "1" then [j.row (keyIn j.first a) (some a) none] else []
    let lone2 (b : List (List Char)) : List (List Char) :=
      if j.lone.contains "2" then [j.row (keyIn j.second b) none (some b)] else []
    match as, bs with
    | [], bs => bs.flatMap lone2
    | as, [] => as.flatMap lone1
    | a :: as, b :: bs =>
      let ka := keyIn j.first a
      let kb := keyIn j.second b
      if ka = kb then
        let same1 := (a :: as).takeWhile fun a => keyIn j.first a = ka
        let same2 := (b :: bs).takeWhile fun b => keyIn j.second b = ka
        let here := if j.onlyLone then [] else
          same1.flatMap fun a => same2.map fun b => j.row ka (some a) (some b)
        here ++ rows j fuel ((a :: as).drop same1.length) ((b :: bs).drop same2.length)
      else if before ka kb then lone1 a ++ rows j fuel as (b :: bs)
      else lone2 b ++ rows j fuel (a :: as) bs

end Joining

def join : State → List String → State :=
  withOptions "join" (options "1:2:a:e:ij:o:t:v:z" [("check-order", "check"),
    ("nocheck-order", "nocheck"), ("ignore-case", "i"), ("header", "header")]) 1 fun s p =>
    let column (key : String) : Nat :=
      (((p.value? key).or (p.value? "j")).bind fun text =>
        Numeral.natural? (pow2 31) text.toList).getD 1
    let isMark (c : Char) : Bool := c = ',' || c = ' '
    let shape := if (p.values "o").isEmpty then none
      else some ((p.values "o").flatMap fun text =>
        (Text.splitOn isMark text.toList).map String.ofList)
    let j : Joining :=
      { mark := (p.value? "t").bind fun text => text.toList.head?
        first := column "1"
        second := column "2"
        lone := p.values "a" ++ p.values "v"
        onlyLone := p.has "v"
        shape := shape
        filler := ((p.value? "e").getD "").toList }
    withTwoFiles "join" (fun s a b =>
      let lines (cs : List Char) := (bareLines '\n' cs).map (fieldsBy j.mark)
      let (as, bs) := (lines a, lines b)
      put s (joinLines '\n' (j.rows (as.length + bs.length + 1) as bs))) s p.operands

end Montage.Utility
