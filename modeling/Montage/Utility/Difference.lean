import Montage.Utility.Listing

/-!
Files compared with each other, byte by byte and line by line.
-/

namespace Montage.Utility

open Shell

/-! ### Bytes -/

/-- The places where two texts differ, counted from one, with the bytes there. -/
def differences (start : Nat) : Text.Bytes → Text.Bytes → List (Nat × Nat × Nat)
  | a :: restA, b :: restB =>
    let more := differences (start + 1) restA restB
    if a = b then more else (start, a.toNat, b.toNat) :: more
  | _, _ => []

/-- A byte as it can be read. -/
def byteText (n : Nat) : String :=
  let low (n : Nat) : String :=
    if n < 32 then String.ofList ['^', Char.ofNat (n + 64)]
    else if n = 127 then "^?"
    else String.ofList [Char.ofNat n]
  if n < 128 then low n else "M-" ++ low (n - 128)

def cmpUsage (s : State) (text : String) : State :=
  (s.complain ("cmp: " ++ text ++ "\ncmp: Try 'cmp --help' for more information.")).finish 2

/-- Tells where two files differ. -/
def compareFiles (p : Parsed) (s : State) (first second : String) (a b : Text.Bytes) : State :=
  let found := differences 1 a b
  let shorter := min a.length b.length
  let ends (s : State) (status : Nat) : State :=
    if a.length = b.length then s.finish status
    else if p.has "s" then s.finish 1
    else
      let name := if a.length < b.length then first else second
      let common := a.take shorter
      let count := common.countP (· = 10)
      let line := if common.getLast? = some 10 then ", line " ++ Decimal.natural count
        else ", in line " ++ Decimal.natural (count + 1)
      let place := if shorter = 0 then " which is empty"
        else " after byte " ++ Decimal.natural shorter ++ (if p.has "l" then "" else line)
      (s.complain ("cmp: EOF on " ++ name ++ place)).finish 1
  let octal (n : Nat) : List Char := padLeft 3 (Nat.toDigits 8 n)
  let shown (n : Nat) : List Char :=
    octal n ++ (if p.has "b" then ' ' :: (byteText n).toList else [])
  match found with
  | [] => ends s 0
  | (place, x, y) :: _ =>
    if p.has "s" then s.finish 1
    else if p.has "l" then
      let width := (Decimal.digits shorter).length
      let lines := found.flatMap fun (place, x, y) =>
        let left := shown x
        let left := if p.has "b" then left ++ List.replicate (8 - left.length) ' ' else left
        padLeft width (Decimal.digits place) ++ ' ' :: left ++ ' ' :: shown y ++ ['\n']
      ends (put s lines) 1
    else
      let line := (a.take (place - 1)).countP (· = 10) + 1
      let unit := if p.has "b" then "byte " else "char "
      let bytes := if p.has "b" then
          " is " ++ String.ofList (shown x) ++ " " ++ String.ofList (shown y) else ""
      (s.say (first ++ " " ++ second ++ " differ: " ++ unit ++ Decimal.natural place ++ ", line " ++
        Decimal.natural line ++ bytes ++ "\n")).finish 1

def cmp (s : State) (args : List String) : State :=
  let known := options "bi:ln:s" [("print-bytes", "b"), ("ignore-initial=", "i"),
    ("verbose", "l"), ("bytes=", "n"), ("quiet", "s"), ("silent", "s")]
  match known.parse args with
  | .error e => cmpUsage s e.message
  | .ok p =>
    match p.operands with
    | [] => cmpUsage s "missing operand after 'cmp'"
    | first :: rest =>
      let second := rest.head?.getD "-"
      let skips := (Text.splitOn (· = ':') ((p.value? "i").getD "0").toList).map fun cs =>
        (count? cs).getD 0
      let skipA := (((rest[1]?).bind fun text => count? text.toList).or skips.head?).getD 0
      let skipB := (((rest[2]?).bind fun text => count? text.toList).or skips.getLast?).getD 0
      let most := (p.value? "n").bind fun text => count? text.toList
      let cut (skip : Nat) (bytes : Text.Bytes) : Text.Bytes :=
        match most with
        | some most => (bytes.drop skip).take most
        | none => bytes.drop skip
      let failed (name : String) (e : FileError) : State :=
        (if p.has "s" then s else s.complain ("cmp: " ++ name ++ ": " ++ e.words)).finish 2
      match content s first with
      | .error e => failed first e
      | .ok (s, a) =>
        match if first = second then .ok (s, a) else content s second with
        | .error e => failed second e
        | .ok (s, b) => compareFiles p s first second (cut skipA a) (cut skipB b)

/-! ### Lines -/

/-- A step from one list of lines to another one. -/
inductive Step
  | keep (line : List Char)
  | remove (line : List Char)
  | add (line : List Char)

/-- The lengths of the longest common sequences of the rests of a list and those of another one: one
row for each rest of the first list, from the longest one on. -/
def commonLengths (same : List Char → List Char → Bool) (a b : List (List Char)) :
    List (List Nat) :=
  let empty := List.replicate (b.length + 1) 0
  a.foldr (fun line rows =>
    let below := rows.headD empty
    let row := ((b.zip (below.zip (below.drop 1))).foldr (fun (other, down, corner) row =>
      let next := if same line other then corner + 1 else max down (row.headD 0)
      next :: row) [0])
    row :: rows) [empty]

/-- The steps that keep as many lines as possible. -/
def stepsBetween (same : List Char → List Char → Bool) :
    List (List Char) → List (List Char) → List (List Nat) → List Step
  | [], b, _ => b.map .add
  | a :: restA, b, rows => across a restA b rows (stepsBetween same restA)
where
  /-- The steps from a line on, with those that follow once it has been kept or removed. -/
  across (a : List Char) (restA : List (List Char)) (b : List (List Char))
      (rows : List (List Nat)) (later : List (List Char) → List (List Nat) → List Step) :
      List Step :=
    match b with
    | [] => (a :: restA).map .remove
    | x :: restB =>
      if same a x then .keep a :: later restB ((rows.drop 1).map (·.drop 1))
      else
        let down := ((rows.drop 1).headD []).headD 0
        let right := ((rows.headD []).drop 1).headD 0
        if right ≤ down then .remove a :: later (x :: restB) (rows.drop 1)
        else .add x :: across a restA restB (rows.map (·.drop 1)) later

/-- Some steps that belong together, with the number of lines before them in both files. -/
structure Hunk where
  before : Nat × Nat
  steps : List Step

def Step.isKeep : Step → Bool
  | keep _ => true
  | _ => false

def removedLines (steps : List Step) : List (List Char) :=
  steps.filterMap fun step =>
    match step with
    | .remove line => some line
    | _ => none

def addedLines (steps : List Step) : List (List Char) :=
  steps.filterMap fun step =>
    match step with
    | .add line => some line
    | _ => none

/-- The changes between lines that are kept. -/
def hunksOf : Nat → Nat × Nat → List Step → List Hunk
  | 0, _, _ | _, _, [] => []
  | fuel + 1, (i, j), step :: rest =>
    if step.isKeep then hunksOf fuel (i + 1, j + 1) rest
    else
      let changed := (step :: rest).takeWhile fun step => !step.isKeep
      let after := (step :: rest).drop changed.length
      ⟨(i, j), changed⟩ :: hunksOf fuel
        (i + (removedLines changed).length, j + (addedLines changed).length) after

/-- Lines with a mark in front, and a word where the last one has no end. -/
def markedLines (mark : String) (lines : List (List Char)) : List Char :=
  lines.flatMap fun line =>
    mark.toList ++ line ++ (if line.getLast? = some '\n' then []
      else "\n\\ No newline at end of file\n".toList)

/-- The numbers of some lines: the first and the last one. -/
def lineRange (before count : Nat) : String :=
  if count = 0 then Decimal.natural before
  else if count = 1 then Decimal.natural (before + 1)
  else Decimal.natural (before + 1) ++ "," ++ Decimal.natural (before + count)

def Hunk.shown (h : Hunk) : List Char :=
  let removed := removedLines h.steps
  let added := addedLines h.steps
  let letter := if removed.isEmpty then "a" else if added.isEmpty then "d" else "c"
  let title := lineRange h.before.1 removed.length ++ letter ++
    lineRange h.before.2 added.length ++ "\n"
  title.toList ++ markedLines "< " removed ++
    (if letter = "c" then "---\n".toList else []) ++ markedLines "> " added

/-- The steps with their places, those that are near a change, in groups that touch. -/
def contextGroups (around : Nat) (steps : List Step) : List Hunk :=
  let near := steps.zipIdx.map fun (step, i) =>
    !step.isKeep || ((steps.drop (i - around)).take (around + min around i + 1)).any fun step =>
      !step.isKeep
  let (groups, last, _, _) := (steps.zip near).foldl
    (fun (groups, current, i, j) (step, isNear) =>
      let (stepI, stepJ) := match step with
        | .keep _ => (1, 1)
        | .remove _ => (1, 0)
        | .add _ => (0, 1)
      match isNear, current with
      | true, some (h : Hunk) =>
        (groups, some { h with steps := step :: h.steps }, i + stepI, j + stepJ)
      | true, none => (groups, some ⟨(i, j), [step]⟩, i + stepI, j + stepJ)
      | false, some h => (h :: groups, none, i + stepI, j + stepJ)
      | false, none => (groups, none, i + stepI, j + stepJ))
    (([] : List Hunk), (none : Option Hunk), 0, 0)
  (last.toList ++ groups).reverse.map fun h => { h with steps := h.steps.reverse }

/-- Lines with those around them, each with a sign. -/
def Hunk.unified (h : Hunk) : List Char :=
  let added := h.steps.countP fun step => match step with
    | .remove _ => false
    | _ => true
  let removed := h.steps.countP fun step => match step with
    | .add _ => false
    | _ => true
  let range (before count : Nat) : String :=
    if count = 1 then Decimal.natural (before + 1)
    else Decimal.natural (if count = 0 then before else before + 1) ++ "," ++
      Decimal.natural count
  let title := "@@ -" ++ range h.before.1 removed ++ " +" ++ range h.before.2 added ++ " @@\n"
  title.toList ++ h.steps.flatMap fun step =>
    match step with
    | .keep line => markedLines " " [line]
    | .remove line => markedLines "-" [line]
    | .add line => markedLines "+" [line]

/-- A line as far as it counts in a comparison. -/
def comparedLine (p : Parsed) (line : List Char) : List Char :=
  let line := if p.has "i" then line.map Char.toLower else line
  let isBlank (c : Char) : Bool := Numeral.isSpace c
  if p.has "w" then line.filter (!isBlank ·)
  else if p.has "b" then
    ((line.splitBy fun a b => isBlank a == isBlank b).flatMap fun part =>
      if part.head?.any isBlank then [' '] else part).reverse.dropWhile (· = ' ') |>.reverse
  else line

/-- The changes put last where lines repeat: all added lines of a change follow all removed ones. -/
def settledSteps (steps : List Step) : List Step :=
  (steps.splitBy fun a b => a.isKeep == b.isKeep).flatMap fun part =>
    if part.head?.any Step.isKeep then part
    else (removedLines part).map .remove ++ (addedLines part).map .add

/-- Tells how two texts differ; whether they do. -/
def tellDifference (p : Parsed) (s : State) (titles : String × String) (lead : String)
    (a b : List Char) : State × Bool :=
  let linesA := linesOf a
  let linesB := linesOf b
  let same (x y : List Char) : Bool := comparedLine p x = comparedLine p y
  let steps := settledSteps (stepsBetween same linesA linesB (commonLengths same linesA linesB))
  if steps.all Step.isKeep then
    (if p.has "s" then s.say ("Files " ++ titles.1 ++ " and " ++ titles.2 ++ " are identical\n")
      else s, false)
  else if p.has "q" then
    (s.say ("Files " ++ titles.1 ++ " and " ++ titles.2 ++ " differ\n"), true)
  else if p.has "u" || p.has "U" then
    let around := ((p.value? "U").bind fun text => count? text.toList).getD 3
    let labels := p.values "label"
    let title (mark label : String) : String := mark ++ " " ++ label ++ "\n"
    let stamp := "\t" ++ fullTime s s.disk.now
    let head := title "---" ((labels[0]?).getD (titles.1 ++ stamp)) ++
      title "+++" ((labels[1]?).getD (titles.2 ++ stamp))
    (put (s.say (lead ++ head)) ((contextGroups around steps).flatMap Hunk.unified), true)
  else
    (put (s.say lead) ((hunksOf (steps.length + 1) (0, 0) steps).flatMap Hunk.shown), true)

/-- What a comparison has come to: the state, and whether files differ or could not be read. -/
structure Compared where
  state : State
  differ : Bool
  failed : Bool

/-- Compares two files, or two directories file by file. -/
def comparePair (p : Parsed) (lead : String) : Nat → String → String → Compared → Compared
  | 0, _, _, c => c
  | fuel + 1, a, b, c =>
    let s := c.state
    let isDirectory (name : String) : Bool := name ≠ "-" && s.disk.isDirectory (pathOf name)
    let missing (name : String) : Bool := name ≠ "-" && !s.disk.isThere (pathOf name)
    let read (s : State) (name : String) : Except FileError (State × List Char) :=
      if p.has "N" && missing name then .ok (s, [])
      else (content s name).map fun (s, bytes) => (s, charsFrom bytes)
    let complain (s : State) (name : String) (e : FileError) : State :=
      s.complain ("diff: " ++ name ++ ": " ++ e.words)
    if isDirectory a && isDirectory b then
      let names (name : String) : List String :=
        ((s.disk.list (pathOf name)).toOption.getD []).map inBytes
      let all := ((names a ++ names b).mergeSort fun x y => decide (x ≤ y)).eraseDups
      all.foldl (fun c name =>
        let only (place : String) : Compared :=
          { c with
            state := c.state.say ("Only in " ++ place ++ ": " ++ name ++ "\n")
            differ := true }
        let x := a ++ "/" ++ name
        let y := b ++ "/" ++ name
        let s := c.state
        if !(names a).contains name && !p.has "N" then only b
        else if !(names b).contains name && !p.has "N" then only a
        else if s.disk.isDirectory (pathOf x) && s.disk.isDirectory (pathOf y) && !p.has "r" then
          { c with state := s.say ("Common subdirectories: " ++ x ++ " and " ++ y ++ "\n") }
        else comparePair p (lead ++ x ++ " " ++ y ++ "\n") fuel x y c) c
    else
      let a := if isDirectory a && b ≠ "-" then a ++ "/" ++ lastName b else a
      let b := if isDirectory b && a ≠ "-" then b ++ "/" ++ lastName a else b
      match read s a, read s b with
      | .error e, .ok _ => { c with state := complain s a e, failed := true }
      | .ok _, .error e => { c with state := complain s b e, failed := true }
      | .error e, .error e' => { c with state := complain (complain s a e) b e', failed := true }
      | .ok (s, textA), .ok (_, textB) =>
        let (s, textB) := match if a = b then .ok (s, textA) else read s b with
          | .ok found => found
          | .error _ => (s, textB)
        let (s, differ) := tellDifference p s (a, b) (if p.has "q" then "" else lead) textA textB
        { c with state := s, differ := c.differ || differ }

def diff (s : State) (args : List String) : State :=
  let known := options "abBiNqrsuU:wZEtT" [("text", "a"), ("ignore-space-change", "b"),
    ("ignore-blank-lines", "B"), ("ignore-case", "i"), ("new-file", "N"), ("brief", "q"),
    ("recursive", "r"), ("report-identical-files", "s"), ("unified?", "U"),
    ("ignore-all-space", "w"), ("ignore-trailing-space", "Z"), ("label=", "label"),
    ("color?", "color"), ("strip-trailing-cr", "strip"), ("normal", "normal")]
  let usage (text : String) : State :=
    (s.complain ("diff: " ++ text ++ "\ndiff: Try 'diff --help' for more information.")).finish 2
  match known.parse args with
  | .error e => usage e.message
  | .ok p =>
    match p.operands with
    | [] => usage "missing operand after 'diff'"
    | [only] => usage ("missing operand after " ++ quotedWord only)
    | _ :: _ :: extra :: _ => usage ("extra operand " ++ quotedWord extra)
    | [a, b] =>
      let lead := "diff " ++ String.join (args.filterMap fun arg =>
        if arg.toList.head? = some '-' && arg ≠ "-" then some (arg ++ " ") else none)
      let isPair := s.disk.isDirectory (pathOf a) && s.disk.isDirectory (pathOf b)
      let done := comparePair p (if isPair then lead else "") 100 a b ⟨s, false, false⟩
      done.state.finish (if done.failed then 2 else if done.differ then 1 else 0)

end Montage.Utility
