import Montage.Number.Numeral
import Montage.Regex.Match
import Montage.Text.Escape

/-!
Reading regular expressions, in the basic and in the extended form: in the basic one a backslash
gives most operators their meaning, in the extended one it takes it away.
-/

namespace Montage.Regex

/-- The form in which an expression is written. -/
structure Form where
  extended : Bool
  /-- An operator that has nothing to repeat is wrong; it is left out or stands for itself
  otherwise. -/
  strict : Bool
  /-- A brace or a closing parenthesis that makes no sense stands for itself; only in the extended
  form. -/
  lenient : Bool
  /-- Characters can be written by letters and digits after a backslash, in brackets too; all others
  stand for themselves there. -/
  escapes : Bool
  /-- No alternative is empty. -/
  filled : Bool
  /-- Numbers in braces repeat. -/
  intervals : Bool

/-- The basic form. -/
def Form.basic : Form :=
  ⟨false, false, false, false, false, true⟩

/-- The extended form, in which what makes no sense stands for itself. -/
def Form.extendedLenient : Form :=
  ⟨true, false, true, false, false, true⟩

/-- Why a text is no regular expression. -/
inductive Fault
  | badPattern
  | collation
  | className
  | classSyntax
  | escape
  | reference
  | bracket
  | parenthesis
  | closing
  | brace
  | braceContent
  | range
  | size
  | nothingToRepeat
  deriving DecidableEq

def Fault.message : Fault → String
  | badPattern => "Invalid regular expression"
  | collation => "Invalid collation character"
  | className => "Invalid character class name"
  | classSyntax => "character class syntax is [[:space:]], not [:space:]"
  | escape => "Trailing backslash"
  | reference => "Invalid back reference"
  | bracket => "Unmatched [, [^, [:, [., or [="
  | parenthesis => "Unmatched ( or \\("
  | closing => "Unmatched ) or \\)"
  | brace => "Unmatched \\\x7b"
  | braceContent => "Invalid content of \\\x7b\\\x7d"
  | range => "Invalid range end"
  | size => "Regular expression too big"
  | nothingToRepeat => "Invalid preceding regular expression"

/-- What is left to be read, how many parts have been opened, and which are closed. -/
structure Rest where
  chars : List Char
  opened : Nat
  closed : List Nat

abbrev Reading := Except Fault (Regex × Rest)

/-! ### Brackets -/

/-- The text up to a mark of two characters. -/
def upTo (mark : Char) : List Char → Option (List Char × List Char)
  | [] => none
  | c :: rest =>
    if c = mark && rest.head? = some ']' then some ([], rest.drop 1)
    else (upTo mark rest).map fun (text, rest) => (c :: text, rest)

/-- One end of a range, and what follows it. -/
def rangeEnd (escapes : Bool) (cs : List Char) : Except Fault (Char × List Char) :=
  let named (mark : Char) (rest : List Char) : Except Fault (Char × List Char) :=
    match upTo mark rest with
    | none => .error .bracket
    | some ([c], rest) => .ok (c, rest)
    | some _ => .error .collation
  match cs with
  | [] => .error .bracket
  | '[' :: '.' :: rest => named '.' rest
  | '[' :: '=' :: rest => named '=' rest
  | '\\' :: d :: rest =>
    if escapes then .ok ((Text.escaped? (d :: rest)).getD (d, rest)) else .ok ('\\', d :: rest)
  | c :: rest => .ok (c, rest)

/-- The ranges up to the closing bracket. -/
def bracketItems (escapes : Bool) :
    Nat → Bool → List Char → Except Fault (List (Char × Char) × List Char)
  | 0, _, _ => .error .bracket
  | _ + 1, _, [] => .error .bracket
  | fuel + 1, first, c :: rest =>
    let more (ranges : List (Char × Char)) (rest : List Char) :=
      (bracketItems escapes fuel false rest).map fun (later, rest) => (ranges ++ later, rest)
    if c = ']' && !first then .ok ([], rest)
    else match c, rest with
      | '[', ':' :: inner =>
        match upTo ':' inner with
        | none => .error .bracket
        | some (name, rest) =>
          match Text.classRanges? (String.ofList name) with
          | some ranges => more ranges rest
          | none => .error .className
      | c, rest => do
        if c = '-' && !first && rest.head? ≠ some ']' then .error .range
        else
          let (lo, rest) ← rangeEnd escapes (c :: rest)
          match rest with
          | '-' :: ']' :: _ => more [(lo, lo)] rest
          | '-' :: after =>
            let (hi, after) ← rangeEnd escapes after
            if lo ≤ hi then more [(lo, hi)] after else .error .range
          | rest => more [(lo, lo)] rest

/-- A set in brackets, after the opening one. -/
def bracketSet (escapes : Bool) (cs : List Char) : Except Fault (CharSet × List Char) := do
  let (inside, body) := match cs with
    | '^' :: rest => (false, rest)
    | cs => (true, cs)
  if body.isEmpty then .error .badPattern
  else
    let (ranges, rest) ← bracketItems escapes (body.length + 1) true body
    let written := cs.take (cs.length - rest.length - 1)
    if cs.head? = some ':' && 1 < written.length && written.getLast? = some ':' then
      .error .classSyntax
    else .ok (⟨inside, ranges⟩, rest)

/-! ### Repetition -/

/-- The greatest number of repetitions. -/
def repeatLimit : Nat :=
  32767

/-- What repeats something: how often, and the rest after it. -/
abbrev Repetition := (Nat × Option Nat) × List Char

/-- The numbers in braces, after the opening one; none where there are no such numbers. -/
def interval? (form : Form) (cs : List Char) : Except Fault (Option Repetition) :=
  let closes (cs : List Char) : Option (List Char) :=
    match form.extended, cs with
    | true, '\x7d' :: rest | false, '\\' :: '\x7d' :: rest => some rest
    | _, _ => none
  let low := cs.takeWhile Char.isDigit
  let rest := cs.drop low.length
  let (most, rest) := match rest with
    | ',' :: rest =>
      let high := rest.takeWhile Char.isDigit
      (if high.isEmpty then none else some (Numeral.value high), rest.drop high.length)
    | rest => (some (Numeral.value low), rest)
  let named := !low.isEmpty || (cs.drop low.length).head? = some ','
  match if named then closes rest else none with
  | some rest =>
    let least := Numeral.value low
    if most.any (· < least) then .error .braceContent
    else if repeatLimit < least || most.any (repeatLimit < ·) then .error .size
    else .ok (some ((least, most), rest))
  | none =>
    if form.lenient then .ok none
    else .error (if cs.contains '\x7d' then .braceContent else .brace)

/-- The repetition that comes next, if one does. -/
def repetition? (form : Form) (cs : List Char) : Except Fault (Option Repetition) :=
  match form.extended, cs with
  | _, '*' :: rest => .ok (some ((0, none), rest))
  | true, '+' :: rest | false, '\\' :: '+' :: rest => .ok (some ((1, none), rest))
  | true, '?' :: rest | false, '\\' :: '?' :: rest => .ok (some ((0, some 1), rest))
  | true, '\x7b' :: rest | false, '\\' :: '\x7b' :: rest =>
    if form.intervals then interval? form rest else .ok none
  | _, _ => .ok none

/-- Something with all repetitions after it. -/
def withRepetitions (form : Form) : Nat → Regex → List Char → Except Fault (Regex × List Char)
  | 0, r, cs => .ok (r, cs)
  | fuel + 1, r, cs => do
    match ← repetition? form cs with
    | none => .ok (r, cs)
    | some ((least, most), rest) =>
      let again := rest.head? = some '*' || "\\\x7b".toList.isPrefixOf rest
      if form.strict && !form.extended && again then .error .nothingToRepeat
      else withRepetitions form fuel (.times r least most) rest

/-! ### Expressions -/

/-- The letters that have a meaning after a backslash in both forms. -/
def escapeItem? (c : Char) : Option Regex :=
  match c with
  | 'w' => some (.one .word)
  | 'W' => some (.one CharSet.word.complement)
  | 's' => some (.one .space)
  | 'S' => some (.one CharSet.space.complement)
  | 'b' => some (.edge .word)
  | 'B' => some (.edge .noWord)
  | '<' => some (.edge .wordStart)
  | '>' => some (.edge .wordEnd)
  | '\x60' => some (.edge .textStart)
  | '\x27' => some (.edge .textEnd)
  | _ => none

/-- Whether a part ends here. -/
def endsPart (form : Form) (cs : List Char) : Bool :=
  match form.extended, cs with
  | true, ')' :: _ | false, '\\' :: ')' :: _ => true
  | _, _ => false

def endsBranch (form : Form) (cs : List Char) : Bool :=
  match form.extended, cs with
  | true, '|' :: _ | false, '\\' :: '|' :: _ => true
  | _, _ => false

/-- The place where a line begins or ends, if that is what stands here. -/
def anchor? (form : Form) (first : Bool) (cs : List Char) : Option (Regex × List Char) :=
  match cs with
  | '^' :: rest => if form.extended || first then some (.edge .lineStart, rest) else none
  | '$' :: rest =>
    if form.extended || rest.isEmpty || endsPart form rest || endsBranch form rest then
      some (.edge .lineEnd, rest)
    else none
  | _ => none

def isNothing : Regex → Bool
  | .nothing => true
  | _ => false

def isEdge : Regex → Bool
  | .edge _ => true
  | _ => false

mutual

/-- Alternatives. -/
def alternatives (form : Form) (fuel depth : Nat) (rest : Rest) : Reading :=
  match fuel with
  | 0 => .error .size
  | fuel + 1 => do
    let (first, rest) ← branch form fuel depth true rest
    if endsBranch form rest.chars then
      let after := { rest with chars := rest.chars.drop (if form.extended then 1 else 2) }
      let (second, rest) ← alternatives form fuel depth after
      if form.filled && (isNothing first || isNothing second) then .error .nothingToRepeat
      else .ok (.either first second, rest)
    else .ok (first, rest)

/-- Parts one after another. -/
def branch (form : Form) (fuel depth : Nat) (first : Bool) (rest : Rest) : Reading :=
  match fuel with
  | 0 => .error .size
  | fuel + 1 =>
    if rest.chars.isEmpty || endsBranch form rest.chars || (0 < depth && endsPart form rest.chars)
    then .ok (.nothing, rest)
    else do
      let (here, rest) ← item form fuel depth first rest
      -- An edge cannot be repeated: what follows it begins anew.
      let (later, rest) ← branch form fuel depth (first && isEdge here) rest
      .ok (.both here later, rest)

/-- One part with its repetitions. -/
def item (form : Form) (fuel depth : Nat) (first : Bool) (rest : Rest) : Reading :=
  match fuel with
  | 0 => .error .size
  | fuel + 1 => do
    let repeats (r : Regex) (rest : Rest) : Reading := do
      if isEdge r then .ok (r, rest)
      else
        let (r, chars) ← withRepetitions form (rest.chars.length + 1) r rest.chars
        .ok (r, { rest with chars := chars })
    let plain (c : Char) (chars : List Char) : Reading :=
      repeats (.one (.single c)) { rest with chars := chars }
    match anchor? form first rest.chars with
    | some (r, chars) => .ok (r, { rest with chars := chars })
    | none =>
      match form.extended, rest.chars with
      | true, '(' :: chars | false, '\\' :: '(' :: chars => do
        let (r, rest) ← part form fuel depth { rest with chars := chars }
        repeats r rest
      | true, ')' :: chars => if form.lenient then plain ')' chars else .error .closing
      | false, '\\' :: ')' :: _ => .error .closing
      | false, '*' :: chars => plain '*' chars
      | false, '\\' :: '\x7b' :: chars =>
        if form.strict then .error .nothingToRepeat else plain '\x7b' chars
      | false, '\\' :: '+' :: chars => plain '+' chars
      | false, '\\' :: '?' :: chars => plain '?' chars
      | true, '*' :: chars | true, '+' :: chars | true, '?' :: chars =>
        if form.strict then .error .nothingToRepeat
        else branchOne form fuel depth { rest with chars := chars }
      | true, '\x7b' :: chars =>
        if form.strict && !form.lenient then .error .nothingToRepeat
        else match first, interval? form chars with
          | true, .ok (some _) => branchOne form fuel depth { rest with chars := chars }
          | _, _ => plain '\x7b' chars
      | _, '.' :: chars => repeats (.one .any) { rest with chars := chars }
      | _, '[' :: chars => do
        let (set, chars) ← bracketSet form.escapes chars
        repeats (.one set) { rest with chars := chars }
      | _, ['\\'] => .error .escape
      | _, '\\' :: c :: chars =>
        let rest := { rest with chars := chars }
        if form.escapes then
          let (c, chars) := (Text.escaped? (c :: chars)).getD (c, chars)
          plain c chars
        else if '1' ≤ c && c ≤ '9' then
          let n := Numeral.digitValue c
          if rest.closed.contains n then repeats (.again n) rest else .error .reference
        else match escapeItem? c with
          | some r => repeats r rest
          | none => plain c chars
      | _, c :: chars => plain c chars
      | _, [] => .ok (.nothing, rest)

/-- What follows an operator that has been left out. -/
def branchOne (form : Form) (fuel depth : Nat) (rest : Rest) : Reading :=
  match fuel with
  | 0 => .error .size
  | fuel + 1 =>
    if rest.chars.isEmpty || endsBranch form rest.chars || (0 < depth && endsPart form rest.chars)
    then .ok (.nothing, rest)
    else item form fuel depth true rest

/-- A part in parentheses, after the opening one. -/
def part (form : Form) (fuel depth : Nat) (rest : Rest) : Reading :=
  match fuel with
  | 0 => .error .size
  | fuel + 1 => do
    let number := rest.opened + 1
    let (r, rest) ← alternatives form fuel (depth + 1) { rest with opened := number }
    if endsPart form rest.chars then
      if form.filled && isNothing r then .error .nothingToRepeat
      else .ok (.group number r,
        { rest with
          chars := rest.chars.drop (if form.extended then 1 else 2)
          closed := number :: rest.closed })
    else .error .parenthesis

end

/-- The regular expression that a text stands for. -/
def read (form : Form) (cs : List Char) : Except Fault Regex := do
  let (r, rest) ← alternatives form (4 * cs.length + 8) 0 ⟨cs, 0, []⟩
  if rest.chars.isEmpty then .ok r else .error .closing

end Montage.Regex
