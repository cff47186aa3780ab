import Montage.Record.Job
import Montage.Utility.Calendar

/-!
The functions that every program has.
-/

namespace Montage.Record

open Shell

/-! ### Texts -/

/-- A part of a text. What lies before the first character counts as part of the length. -/
def substring (cs : List Char) (start : Int) (length : Option Int) : List Char :=
  let first := max start 1
  let count := length.map fun n => if start < 0 then n - start else n
  let rest := cs.drop (first - 1).toNat
  match count with
  | some n => rest.take n.toNat
  | none => rest

/-- The place in a text where another one begins, counted from one; zero if it does not occur. -/
def indexIn (part : List Char) : Nat → List Char → Nat
  | n, [] => if part.isEmpty then n else 0
  | n, c :: rest => if part.isPrefixOf (c :: rest) then n else indexIn part (n + 1) rest

/-- What is put in the place of something: an ampersand stands for what was there, if no backslash
is before it. -/
def replacement (found : List Char) : Nat → List Char → List Char
  | 0, _ => []
  | _ + 1, [] => []
  | fuel + 1, c :: rest =>
    let slashes := ((c :: rest).takeWhile (· = '\\')).length
    match (c :: rest).drop slashes with
    | '&' :: after =>
      let lead := List.replicate (slashes / 2) '\\'
      lead ++ (if slashes % 2 = 1 then ['&'] else found) ++ replacement found fuel after
    | _ =>
      if slashes = 0 then c :: replacement found fuel rest
      else List.replicate slashes '\\' ++ replacement found fuel ((c :: rest).drop slashes)

/-- A text in which an expression has been replaced once or everywhere, and how often. `last` is
where the match before ended. -/
def replaced (r : Regex) (cs new : List Char) (all : Bool) :
    Nat → Nat → Option Nat → List Char × Nat
  | 0, start, _ => (cs.drop start, 0)
  | fuel + 1, start, last =>
    match r.find? plainLook cs start with
    | none => (cs.drop start, 0)
    | some m =>
      if m.start = m.stop && last = some m.start then
        match cs.drop start with
        | [] => ([], 0)
        | c :: _ =>
          let (rest, count) := replaced r cs new all fuel (start + 1) none
          (c :: rest, count)
      else
        let here := (cs.drop start).take (m.start - start) ++
          replacement (m.text cs) (new.length + 1) new
        if all then
          let (rest, count) := replaced r cs new all fuel m.stop (some m.stop)
          (here ++ rest, count + 1)
        else (here ++ cs.drop m.stop, 1)

/-- A text in which an expression has been replaced, and how often. -/
def replace (r : Regex) (cs new : List Char) (all : Bool) : List Char × Nat :=
  replaced r cs new all (2 * cs.length + 2) 0 none

/-! ### Numbers -/

/-- A fraction that is hard to foresee. -/
def randomNumber (w : Random.Window) : Binary64 :=
  .ofRatio false w.value (pow2 31 - 1)

/-- The random numbers that a seed leads to. -/
def windowOf (seed : Value) : Random.Window :=
  .ofSeed (.ofNat (Int.emod (wholePart seed.real) (pow2 32)).toNat)

/-- A function of one number. -/
def numberFunction? (f : Native) : Option (Binary64 → Binary64) :=
  match f with
  | .sine => some .sin
  | .cosine => some .cos
  | .exponential => some .exp
  | .logarithm => some .log
  | .root => some .squareRoot
  | .whole => some .truncated
  | _ => none

/-! ### Functions of values -/

/-- A moment as a form tells it: the seconds and the form, which have their defaults. -/
def toldDate (s : State) (args : List Value) (form : List Char) : List Char :=
  let moment : Int := match args with
    | _ :: seconds :: _ => wholePart seconds.real * 1000
    | _ => s.disk.now
  let zone := match args with
    | [_, _, universal] => if universal.isTrue then Utility.Zone.universal else Utility.zone s
    | _ => Utility.zone s
  (Utility.showDate (.ofInstant (moment + zone.minutes * 60000)) zone (String.ofList form)).toList

/-- The value of a function whose arguments are values. -/
def apply (start : Starter) (f : Native) (args : List Value) : Act Value := do
  let first := args.headD .unset
  let second := (args.drop 1).headD .unset
  let j ← get
  match f with
  | .length => pure (.ofNat (if args.isEmpty then j.record else j.chars first).length)
  | .substring =>
    let length := ((args.drop 2).head?).map fun v => wholePart v.real
    pure (.text (substring (j.chars first) (wholePart second.real) length))
  | .index => pure (.ofNat (indexIn (j.chars second) 1 (j.chars first)))
  | .format => do
    let form := j.chars first
    match format j.textForm form (args.drop 1) with
    | (text, none) => pure (.text text)
    | (_, some fault) => crash (fault.message "sprintf" form)
  | .angle => pure (.number (first.real.angle second.real))
  | .random => do
    let window := j.window.next
    set { j with window := window }
    pure (.number (randomNumber window))
  | .seed => do
    let seed := if args.isEmpty then Value.ofInt (j.shell.disk.now / 1000) else first
    set { j with seed := seed, window := windowOf seed }
    pure j.seed
  | .lower => pure (.text ((j.chars first).map Char.toLower))
  | .upper => pure (.text ((j.chars first).map Char.toUpper))
  | .system => do
    flushAll
    let j ← get
    let (s, status, _) := runCommand start j.shell (j.chars first) none false
    set { j with shell := s }
    pure (.ofNat status)
  | .close => pure (.ofInt (← closeNamed start (j.chars first)))
  | .flush => do
    flushAll
    pure (.ofNat 0)
  | .moment => pure (.ofInt (j.shell.disk.now / 1000))
  | .date =>
    let form := if args.isEmpty then ['%', 'c'] else j.chars first
    pure (.text (toldDate j.shell args form))
  | f =>
    match numberFunction? f with
    | some function => pure (.number (function first.real))
    | none => pure .unset

end Montage.Record
