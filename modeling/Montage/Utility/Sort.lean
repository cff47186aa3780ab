import Montage.Number.Numeral
import Montage.Utility.Columns

/-!
Lines in order, and lines that are repeated one after another.
-/

namespace Montage.Utility

open Shell

/-! ### Orders -/

/-- How two keys are compared. -/
inductive SortBy
  | bytes
  | number
  | real
  | human
  | month
  | version
  deriving DecidableEq

/-- How keys are looked at. -/
structure SortStyle where
  sortBy : SortBy
  reverse : Bool
  skipBlanks : Bool
  skipEndBlanks : Bool
  onlyLetters : Bool
  onlyPrintable : Bool
  foldCase : Bool

def SortStyle.usual : SortStyle :=
  ⟨.bytes, false, false, false, false, false, false⟩

def isTabOrSpace (c : Char) : Bool :=
  c = ' ' || c = '\t'

/-- A number with a sign and a fraction, as a count of units that are ten to a power. -/
structure PlainNumber where
  negative : Bool
  whole : List Char
  fraction : List Char
  rest : List Char

def plainNumber (cs : List Char) : PlainNumber :=
  let cs := cs.dropWhile isTabOrSpace
  let (negative, cs) := match cs with
    | '-' :: rest => (true, rest)
    | cs => (false, cs)
  let whole := cs.takeWhile Char.isDigit
  match cs.drop whole.length with
  | '.' :: more =>
    ⟨negative, whole, more.takeWhile Char.isDigit, more.dropWhile Char.isDigit⟩
  | rest => ⟨negative, whole, [], rest⟩

/-- The value in units of which `10 ^ places` are one. -/
def PlainNumber.units (n : PlainNumber) (places : Nat) : Int :=
  let digits := n.whole ++ n.fraction ++ List.replicate (places - n.fraction.length) '0'
  let value : Int := Numeral.value digits
  if n.negative then -value else value

def compareNumbers (a b : List Char) : Ordering :=
  let (x, y) := (plainNumber a, plainNumber b)
  let places := max x.fraction.length y.fraction.length
  Ord.compare (x.units places) (y.units places)

/-- Where the unit after a number stands in order. -/
def unitRank (cs : List Char) : Int :=
  let n := plainNumber cs
  let place (c : Char) : Nat :=
    (("KMGTPEZYRQ".toList.idxOf? (if c = 'k' then 'K' else c)).map (· + 1)).getD 0
  let rank : Int := ((n.rest.head?.map place).getD 0 : Nat)
  if n.units n.fraction.length = 0 then 0 else if n.negative then -rank else rank

/-- A number, a value that is no number, or nothing at all, which come in this order from the
end. -/
def realRank (cs : List Char) : Int × Int :=
  match Numeral.leadingReal? cs with
  | none => (0, 0)
  | some found =>
    match found.value with
    | .nan _ => (1, 0)
    | x => (2, (x.position).getD 0)

def months : List String :=
  ["JAN", "FEB", "MAR", "APR", "MAY", "JUN", "JUL", "AUG", "SEP", "OCT", "NOV", "DEC"]

def monthRank (cs : List Char) : Nat :=
  let name := ((cs.dropWhile isTabOrSpace).take 3).map Char.toUpper
  ((months.idxOf? (String.ofList name)).map (· + 1)).getD 0

/-- Where a character stands in the order of versions: a tilde before the end, letters before the
rest. -/
def versionRank (c : Option Char) : Int :=
  match c with
  | none => 0
  | some c =>
    if c = '~' then -2
    else if c.isDigit then 0
    else if c.isAlpha then c.toNat
    else c.toNat + 256

/-- Parts that are no digits are compared by characters, and digits by their value. -/
def compareVersions : Nat → List Char → List Char → Ordering
  | 0, _, _ => .eq
  | fuel + 1, a, b =>
    if a.isEmpty && b.isEmpty then .eq
    else
      let text (cs : List Char) := cs.takeWhile (!Char.isDigit ·)
      let (ta, tb) := (text a, text b)
      let ranks (cs rest : List Char) : List Int :=
        cs.map (versionRank <| some ·) ++ [if rest.isEmpty then -1 else 0]
      let order := compareRanks (ranks ta (a.drop ta.length)) (ranks tb (b.drop tb.length))
      if order ≠ .eq then order
      else
        let (da, db) := ((a.drop ta.length).takeWhile Char.isDigit,
          (b.drop tb.length).takeWhile Char.isDigit)
        match Ord.compare (Numeral.value da) (Numeral.value db) with
        | .eq => compareVersions fuel (a.drop (ta.length + da.length))
            (b.drop (tb.length + db.length))
        | order => order
where
  compareRanks : List Int → List Int → Ordering
    | x :: xs, y :: ys =>
      match Ord.compare x y with
      | .eq => compareRanks xs ys
      | order => order
    | _, _ => .eq

def compareBytes (a b : List Char) : Ordering :=
  if a = b then .eq else if before a b then .lt else .gt

/-- The characters of a key that count. -/
def SortStyle.key (style : SortStyle) (cs : List Char) : List Char :=
  let cs := if style.onlyLetters then cs.filter fun c => isTabOrSpace c || c.isAlphanum else cs
  let cs := if style.onlyPrintable then cs.filter isPrintable else cs
  if style.foldCase then cs.map Char.toUpper else cs

def SortStyle.compare (style : SortStyle) (a b : List Char) : Ordering :=
  let order := match style.sortBy with
    | .bytes => compareBytes (style.key a) (style.key b)
    | .number => compareNumbers a b
    | .real =>
      let (x, y) := (realRank a, realRank b)
      (Ord.compare x.1 y.1).then (Ord.compare x.2 y.2)
    | .human => (Ord.compare (unitRank a) (unitRank b)).then (compareNumbers a b)
    | .month => Ord.compare (monthRank a) (monthRank b)
    | .version => compareVersions (a.length + b.length + 1) a b
  if style.reverse then order.swap else order

/-! ### Keys -/

/-- The place of a key: fields and characters before its start, and up to its end. -/
structure SortKey where
  fields : Nat
  chars : Nat
  /-- None when the key goes to the end of the line. -/
  stop : Option (Nat × Nat)
  style : SortStyle
  /-- Whether it has options of its own. -/
  styled : Bool

/-- The text from a field on. -/
def fromField (mark : Option Char) : Nat → List Char → List Char
  | 0, cs => cs
  | count + 1, cs =>
    match mark with
    | some c => fromField mark count ((cs.dropWhile (· ≠ c)).drop 1)
    | none =>
      fromField mark count ((cs.dropWhile isTabOrSpace).dropWhile (!isTabOrSpace ·))

/-- The text from which on a key has ended. -/
def afterKey (mark : Option Char) (key : SortKey) (line : List Char) : List Char :=
  match key.stop with
  | none => []
  | some (fields, 0) =>
    match mark with
    | some c =>
      let rest := fromField mark (fields - 1) line
      rest.dropWhile (· ≠ c)
    | none => fromField mark fields line
  | some (fields, chars) =>
    let rest := fromField mark (fields - 1) line
    let rest := if key.style.skipEndBlanks then rest.dropWhile isTabOrSpace else rest
    rest.drop chars

def keyText (mark : Option Char) (key : SortKey) (line : List Char) : List Char :=
  let start := fromField mark key.fields line
  let start := if key.style.skipBlanks then start.dropWhile isTabOrSpace else start
  let start := start.drop key.chars
  start.take (start.length - (afterKey mark key line).length)

/-- A style with the option of a letter, if there is one. -/
def withLetter? (style : SortStyle) (atEnd : Bool) (c : Char) : Option SortStyle :=
  match c with
  | 'b' => some (if atEnd then { style with skipEndBlanks := true }
      else { style with skipBlanks := true })
  | 'd' => some { style with onlyLetters := true }
  | 'f' => some { style with foldCase := true }
  | 'g' => some { style with sortBy := .real }
  | 'h' => some { style with sortBy := .human }
  | 'i' => some { style with onlyPrintable := true }
  | 'M' => some { style with sortBy := .month }
  | 'n' => some { style with sortBy := .number }
  | 'R' => some style
  | 'r' => some { style with reverse := true }
  | 'V' => some { style with sortBy := .version }
  | _ => none

def withLettersOf (style : SortStyle) (atEnd : Bool) : List Char → SortStyle × List Char
  | [] => (style, [])
  | c :: rest =>
    match withLetter? style atEnd c with
    | some style => withLettersOf style atEnd rest
    | none => (style, c :: rest)

/-- A field and a character in it, both counted from one. -/
def keyPlace (isStart : Bool) (cs : List Char) : Except String (Nat × Nat × List Char) :=
  let field := cs.takeWhile Char.isDigit
  let rest := cs.drop field.length
  if field.isEmpty then
    .error ((if isStart then "invalid number at field start: invalid count at start of "
      else "invalid number after ',': invalid count at start of ") ++
      quotedWord (String.ofList cs))
  else match rest with
    | '.' :: more =>
      let char := more.takeWhile Char.isDigit
      if char.isEmpty then
        .error ("invalid number after '.': invalid count at start of " ++
          quotedWord (String.ofList more))
      else .ok (Numeral.value field, Numeral.value char, more.drop char.length)
    | rest => .ok (Numeral.value field, if isStart then 1 else 0, rest)

/-- The key that the text of an option describes. -/
def keyOf (text : String) : Except String SortKey := do
  let bad (why : String) : String :=
    why ++ ": invalid field specification " ++ quotedWord text
  let (field, char, rest) ← keyPlace true text.toList
  if field = 0 then .error (bad "field number is zero")
  else if char = 0 then .error (bad "character offset is zero")
  else
    let (style, rest) := withLettersOf .usual false rest
    let start (stop : Option (Nat × Nat)) (style : SortStyle) (used : List Char) : SortKey :=
      ⟨field - 1, char - 1, stop, style, !used.isEmpty⟩
    match rest with
    | [] => .ok (start none style (text.toList.filter Char.isAlpha))
    | ',' :: more =>
      let (last, lastChar, rest) ← keyPlace false more
      if last = 0 then .error (bad "field number is zero")
      else
        let (style, rest) := withLettersOf style true rest
        if rest.isEmpty then
          .ok (start (some (last, lastChar)) style (text.toList.filter Char.isAlpha))
        else .error (bad "stray character in field spec")
    | _ => .error (bad "stray character in field spec")

/-! ### Sorting -/

/-- All that decides about the order of lines. -/
structure Sorting where
  mark : Option Char
  keys : List SortKey
  style : SortStyle
  stable : Bool
  unique : Bool

/-- The order of two lines by their keys, or as a whole when there are none. -/
def Sorting.compareKeys (o : Sorting) (a b : List Char) : Ordering :=
  if o.keys.isEmpty then
    let text (line : List Char) :=
      if o.style.skipBlanks then line.dropWhile isTabOrSpace else line
    o.style.compare (text a) (text b)
  else o.keys.foldl (fun order key =>
    order.then (key.style.compare (keyText o.mark key a) (keyText o.mark key b))) .eq

/-- The same, where lines that only differ elsewhere are told apart at last. -/
def Sorting.compare (o : Sorting) (a b : List Char) : Ordering :=
  let order := o.compareKeys a b
  if o.stable || o.unique then order
  else
    let last := compareBytes a b
    order.then (if o.style.reverse then last.swap else last)

def Sorting.apply (o : Sorting) (lines : List (List Char)) : List (List Char) :=
  let sorted := lines.mergeSort fun a b => o.compare a b ≠ .gt
  if !o.unique then sorted
  else sorted.foldr (fun line kept =>
    match kept with
    | next :: rest => if o.compareKeys line next = .eq then line :: rest else line :: kept
    | [] => [line]) []

/-- The first line that is not in order, with its number. -/
def Sorting.disorder? (o : Sorting) (lines : List (List Char)) : Option (List Char × Nat) :=
  ((lines.zip (lines.drop 1)).zipIdx 2).findSome? fun ((a, b), i) =>
    let order := o.compare a b
    if order = .gt || (o.unique && order = .eq) then some (b, i) else none

/-- What the options of `sort` ask for. -/
def sortingOf (p : Parsed) : Except String Sorting := do
  let (style, _) := withLettersOf .usual false
    ((p.options.filter fun (key, value) => value.isNone && key.length = 1).filterMap
      fun (key, _) => key.toList.head?.filter "bdfghinMRrV".toList.contains)
  let keys ← (p.values "k").mapM keyOf
  let keys := keys.map fun key => if key.styled then key else
    { key with style := { style with skipEndBlanks := style.skipBlanks } }
  let mark ← match (p.value? "t").map String.toList with
    | none => .ok none
    | some [c] => .ok (some c)
    | some ['\\', '0'] => .ok (some (Char.ofNat 0))
    | some [] => .error "empty tab"
    | some text => .error ("multi-character tab " ++ quotedWord (String.ofList text))
  .ok ⟨mark, keys, style, p.has "s", p.has "u"⟩

/-- A word after a name tells the order by a letter. -/
def sortWords : List (String × String) :=
  [("general-numeric", "g"), ("human-numeric", "h"), ("month", "M"), ("numeric", "n"),
    ("random", "R"), ("version", "V")]

def sort (s : State) (args : List String) : State :=
  let args := args.map fun arg =>
    let word := String.ofList (arg.toList.drop "--sort=".length)
    if "--sort=".toList.isPrefixOf arg.toList then
      ((sortWords.lookup word).map ("-" ++ ·)).getD arg
    else arg
  withOptions "sort" (options "bdfghiMnRrVcCmo:st:uzk:S:T:y:" [("ignore-leading-blanks", "b"),
    ("dictionary-order", "d"), ("ignore-case", "f"), ("general-numeric-sort", "g"),
    ("human-numeric-sort", "h"), ("ignore-nonprinting", "i"), ("month-sort", "M"),
    ("numeric-sort", "n"), ("random-sort", "R"), ("reverse", "r"), ("version-sort", "V"),
    ("check?", "c"), ("merge", "m"), ("output=", "o"), ("stable", "s"), ("field-separator=", "t"),
    ("unique", "u"), ("zero-terminated", "z"), ("key=", "k"), ("buffer-size=", "S"),
    ("parallel=", "parallel"), ("temporary-directory=", "T")]) 2 (fun s p =>
    let trouble (s : State) (text : String) : State := (s.complain ("sort: " ++ text)).finish 2
    match sortingOf p with
    | .error text => trouble s text
    | .ok o =>
      let ending := if p.has "z" then Char.ofNat 0 else '\n'
      let names := if p.operands.isEmpty then ["-"] else p.operands
      let read := names.foldlM (fun (s, found) name =>
        match content s name with
        | .ok (s, bytes) => Except.ok (s, found ++ bareLines ending (charsFrom bytes))
        | .error (e : FileError) =>
          let checks := p.has "c" || p.has "C"
          let what := if e = FileError.isADirectory || (e = FileError.badStream && checks) then "read failed: "
            else if e = FileError.badStream then "stat failed: "
            else "cannot read: "
          .error (what ++ plainWording name e)) (s, ([] : List (List Char)))
      match read with
      | .error text => trouble s text
      | .ok (s, lines) =>
        if p.has "c" || p.has "C" then
          match o.disorder? lines with
          | none => s
          | some (line, i) =>
            let quiet := p.has "C" || ["quiet", "silent"].any fun word => p.value? "c" = some word
            if quiet then s.finish 1
            else (s.complain ("sort: " ++ names.head?.getD "-" ++ ":" ++ Decimal.natural i ++
              ": disorder: " ++ String.ofList line)).finish 1
        else
          let bytes := bytesOf (joinLines ending (o.apply lines))
          match p.value? "o" with
          | none => s.write 1 bytes
          | some name =>
            match s.disk.write (pathOf name) bytes with
            | .ok disk => { s with disk := disk }
            | .error e => trouble s ("open failed: " ++ plainWording name e)) s args

/-! ### Repeated lines -/

/-- Which part of lines is compared. -/
structure Sameness where
  fields : Nat
  chars : Nat
  width : Option Nat
  foldCase : Bool

def Sameness.part (m : Sameness) (line : List Char) : List Char :=
  let rest := (fromField none m.fields line).drop m.chars
  let rest := match m.width with
    | some n => rest.take n
    | none => rest
  if m.foldCase then rest.map Char.toLower else rest

/-- How groups of equal lines are shown. -/
def shownGroup (p : Parsed) (group : List (List Char)) : List (List Char) :=
  let count := group.length
  let first := group.take 1
  if p.has "D" then if 1 < count then group else []
  else if p.has "d" && p.has "u" then []
  else if p.has "d" && count < 2 then []
  else if p.has "u" && 1 < count then []
  else if p.has "c" then first.map fun line => padLeft 7 (Decimal.digits count) ++ ' ' :: line
  else first

def uniq (s : State) (args : List String) : State :=
  withOptions "uniq" (options "cdDf:is:uw:z" [("count", "c"), ("repeated", "d"),
    ("all-repeated?", "D"), ("group?", "group"), ("skip-fields=", "f"), ("ignore-case", "i"),
    ("skip-chars=", "s"), ("unique", "u"), ("check-chars=", "w"), ("zero-terminated", "z")]) 1
    (fun s p =>
      let number (key : String) : Except String (Option Nat) :=
        match p.value? key with
        | none => .ok none
        | some text =>
          match Numeral.natural? (pow2 63) text.toList with
          | some n => .ok (some n)
          | none => .error (text ++ ": invalid number of " ++
              (if key = "f" then "fields" else "bytes") ++
              (if key = "w" then " to compare" else " to skip"))
      let m : Except String Sameness := do
        .ok ⟨(← number "f").getD 0, (← number "s").getD 0, ← number "w", p.has "i"⟩
      match m, p.operands with
      | .error text, _ => (s.complain ("uniq: " ++ text)).finish 1
      | _, _ :: _ :: c :: _ => misused s "uniq" ("extra operand " ++ quotedWord c) 1
      | .ok m, names =>
        let ending := if p.has "z" then Char.ofNat 0 else '\n'
        let name := names.head?.getD "-"
        match content s name with
        | .error e =>
          let what := if e = .isADirectory || e = .badStream then
              "error reading " ++ quotedName name ++ ": " ++ e.words
            else plainWording name e
          (s.complain ("uniq: " ++ what)).finish 1
        | .ok (s, bytes) =>
          let groups := (bareLines ending (charsFrom bytes)).splitBy fun a b => m.part a = m.part b
          let shown := if p.has "group" then [[]].intercalate groups
            else groups.flatMap (shownGroup p)
          let bytes := bytesOf (joinLines ending shown)
          match names[1]? with
          | none | some "-" => s.write 1 bytes
          | some target =>
            match s.disk.write (pathOf target) bytes with
            | .ok disk => { s with disk := disk }
            | .error e => (s.complain ("uniq: " ++ plainWording target e)).finish 1) s args

end Montage.Utility
