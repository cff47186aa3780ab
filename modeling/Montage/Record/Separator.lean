import Montage.Record.Expression
import Montage.Regex.Match
import Montage.Text.Lines

/-!
How a text is cut into records, and a record into fields.
-/

namespace Montage.Record

/-- What stands between two parts. -/
inductive Separator
  /-- Any number of blanks; those at both ends do not count. -/
  | blanks
  /-- Nothing: each character is a part. -/
  | nothing
  | one (c : Char)
  | any (r : Regex)

/-- How expressions are looked for. -/
def plainLook : Regex.Look :=
  ⟨false, false⟩

def isFieldBlank (c : Char) : Bool :=
  c = ' ' || c = '\t' || c = '\n'

/-- The parts between places where something is found that is not empty. -/
def splitBy (r : Regex) (cs : List Char) : Nat → Nat → Nat → List (List Char)
  | 0, start, _ => [cs.drop start]
  | fuel + 1, start, offset =>
    match r.find? plainLook cs offset with
    | none => [cs.drop start]
    | some m =>
      if m.stop = m.start then
        if m.start < cs.length then splitBy r cs fuel start (m.start + 1) else [cs.drop start]
      else (cs.drop start).take (m.start - start) :: splitBy r cs fuel m.stop m.stop

namespace Separator

/-- The separator that a text names. -/
def ofText (cs : List Char) : Except Regex.Fault Separator :=
  match cs with
  | [] => .ok nothing
  | [c] => .ok (if c = ' ' then blanks else one c)
  | cs => (Regex.read patternForm cs).map any

/-- The parts of a text; an empty one has none. -/
def split (s : Separator) (cs : List Char) : List (List Char) :=
  if cs.isEmpty then []
  else match s with
    | blanks => (Text.splitOn isFieldBlank cs).filter (!·.isEmpty)
    | nothing => cs.map ([·])
    | one c => Text.splitOn (· = c) cs
    | any r => splitBy r cs (cs.length + 1) 0 0

end Separator

/-! ### Records -/

/-- What ends a record. -/
inductive Ending
  /-- An empty line, or several. -/
  | paragraph
  | one (c : Char)
  | any (r : Regex)

def Ending.ofText (cs : List Char) : Except Regex.Fault Ending :=
  match cs with
  | [] => .ok .paragraph
  | [c] => .ok (.one c)
  | cs => (Regex.read patternForm cs).map .any

/-- The text up to an empty line, and what follows all such lines. -/
def untilEmptyLine : List Char → List Char × List Char
  | [] => ([], [])
  | ['\n'] => ([], [])
  | '\n' :: '\n' :: rest => ([], rest.dropWhile (· = '\n'))
  | c :: rest =>
    let (cs, rest) := untilEmptyLine rest
    (c :: cs, rest)

/-- The first record of a text, and what follows it. -/
def Ending.first? (e : Ending) (cs : List Char) : Option (List Char × List Char) :=
  match e with
  | .paragraph =>
    let body := cs.dropWhile (· = '\n')
    if body.isEmpty then none else some (untilEmptyLine body)
  | .one c =>
    if cs.isEmpty then none
    else
      let record := cs.takeWhile (· ≠ c)
      some (record, cs.drop (record.length + 1))
  | .any r =>
    if cs.isEmpty then none
    else match r.find? plainLook cs 0 with
      | some m => if m.stop = 0 then some (cs, []) else some (cs.take m.start, cs.drop m.stop)
      | none => some (cs, [])

end Montage.Record
