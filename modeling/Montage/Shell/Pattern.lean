import Montage.Shell.Command
import Montage.Text.Classes
import Montage.Text.Lines

/-!
Patterns: a star stands for any text, a question mark for one character, and brackets for one of
some characters.
-/

namespace Montage.Shell

/-- A character, and whether it is quoted. Quoted characters stand for themselves. -/
abbrev Marked := Char × Bool

inductive PatternItem
  | many
  | one
  | char (c : Char)
  /-- One character inside, or outside, all of some ranges. -/
  | among (inside : Bool) (ranges : List (Char × Char))

abbrev Pattern := List PatternItem

/-- The characters of a class that is named inside brackets, and what follows it. -/
def className? (c : Char) (rest : List Marked) : Option (List (Char × Char) × List Marked) :=
  match c, rest with
  | '[', (':', false) :: inner =>
    let name := (inner.map (·.1)).takeWhile (· ≠ ':')
    match (inner.drop name.length).map (·.1) with
    | ':' :: ']' :: _ =>
      (Text.classRanges? (String.ofList name)).map (·, inner.drop (name.length + 2))
    | _ => none
  | _, _ => none

/-- The ranges up to the closing bracket. -/
def bracketRanges : Nat → Bool → List Marked → Option (List (Char × Char) × List Marked)
  | 0, _, _ => none
  | _ + 1, _, [] => none
  | fuel + 1, first, (c, quoted) :: rest =>
    let more (ranges : List (Char × Char)) (rest : List Marked) :=
      (bracketRanges fuel false rest).map fun (later, rest) => (ranges ++ later, rest)
    if c = ']' ∧ !quoted ∧ !first then some ([], rest)
    else match className? c rest with
      | some (ranges, rest) => more ranges rest
      | none =>
        match rest with
        | ('-', false) :: (hi, hiQuoted) :: after =>
          if hi = ']' ∧ !hiQuoted then more [(c, c)] rest else more [(c, hi)] after
        | rest => more [(c, c)] rest

def bracket? (cs : List Marked) : Option (PatternItem × List Marked) :=
  let (inside, body) := match cs with
    | ('!', false) :: rest => (false, rest)
    | cs => (true, cs)
  (bracketRanges (body.length + 1) true body).map fun (ranges, rest) => (.among inside ranges, rest)

/-- A bracket that is not closed stands for itself. -/
def patternFrom : Nat → List Marked → Pattern
  | 0, _ => []
  | _ + 1, [] => []
  | fuel + 1, (c, quoted) :: rest =>
    if quoted then .char c :: patternFrom fuel rest
    else match c, rest with
      | '*', rest => .many :: patternFrom fuel rest
      | '?', rest => .one :: patternFrom fuel rest
      | '\\', (d, _) :: rest => .char d :: patternFrom fuel rest
      | '[', rest =>
        match bracket? rest with
        | some (item, rest) => item :: patternFrom fuel rest
        | none => .char '[' :: patternFrom fuel rest
      | c, rest => .char c :: patternFrom fuel rest

def patternOf (cs : List Marked) : Pattern :=
  patternFrom (cs.length + 1) cs

/-- A text without quotes, as the characters of a pattern. -/
def unmarked (cs : List Char) : List Marked :=
  cs.map (·, false)

/-- Whether anything in it can stand for other characters. -/
def isActive (cs : List Marked) : Bool :=
  cs.any fun (c, quoted) => !quoted && (c = '*' || c = '?' || c = '[')

/-- A list and all that is left of it from the front, longest first. -/
def suffixes : List Char → List (List Char)
  | [] => [[]]
  | c :: rest => (c :: rest) :: suffixes rest

namespace Pattern

def fits : Pattern → List Char → Bool
  | [], cs => cs.isEmpty
  | .many :: p, cs => (suffixes cs).any fun rest => fits p rest
  | item :: p, cs =>
    match item, cs with
    | _, [] => false
    | .char c, d :: rest => c = d && fits p rest
    | .among inside ranges, d :: rest =>
      (ranges.any fun (lo, hi) => lo ≤ d && d ≤ hi) = inside && fits p rest
    | _, _ :: rest => fits p rest

/-- A value without what the pattern cuts off, if there is such a part. -/
def cut? (pattern : Pattern) (atEnd longest : Bool) (value : List Char) : Option (List Char) :=
  let lengths := List.range (value.length + 1)
  let order := if longest then lengths.reverse else lengths
  if atEnd then
    (order.find? fun n => pattern.fits (value.drop (value.length - n))).map fun n =>
      value.take (value.length - n)
  else (order.find? fun n => pattern.fits (value.take n)).map value.drop

/-- The same, where what does not fit stays whole. -/
def cut (pattern : Pattern) (atEnd longest : Bool) (value : List Char) : List Char :=
  (pattern.cut? atEnd longest value).getD value

/-- A row without the shortest end of its last text that has one, and without what comes after that
text. The last text is the first of the list. -/
def cutLast? (pattern : Pattern) : List (List Char) → Option (List (List Char))
  | [] => none
  | last :: before =>
    match pattern.cut? true false last with
    | some kept => some (kept :: before)
    | none => pattern.cutLast? before

/-- A character that quotes keep from having a meaning in patterns. -/
def isGuarded (c : Char) : Bool :=
  "!*?[=~:/-]\\".toList.contains c

/-- The texts of a row without what the pattern cuts off. A beginning is that of the first text; the
longest one is the whole row where it is that whole text. The longest end is that of the first text,
after which nothing is left; the shortest one is that of the last text that has one.

In quotes, when the first text has a character that they guard, its shortest end and its longest
beginning are only measured: the end of the row loses as much, or keeps as much. -/
def cutRow (pattern : Pattern) (atEnd longest quoted : Bool) (row : List String) : List String :=
  match row.map String.toList with
  | [] => []
  | first :: rest =>
    let isMeasured := quoted && first.any isGuarded
    let whole := [Char.ofNat 0].intercalate (first :: rest)
    let apart (cs : List Char) : List (List Char) := Text.splitOn (· = Char.ofNat 0) cs
    let left : Option (List (List Char)) :=
      match atEnd, longest with
      | true, true => (pattern.cut? true true first).map ([·])
      | true, false =>
        if isMeasured then (pattern.cut? true false first).map fun kept =>
          apart (whole.take (whole.length + kept.length - first.length))
        else (pattern.cutLast? (first :: rest).reverse).map List.reverse
      | false, true =>
        if pattern.fits first then some [[]]
        else (pattern.cut? false true first).map fun kept =>
          if isMeasured then apart (whole.drop (whole.length - kept.length)) else kept :: rest
      | false, false => (pattern.cut? false false first).map (· :: rest)
    (left.map (·.map String.ofList)).getD row

end Pattern

end Montage.Shell
