import Montage.Regex.Match

/-!
Scripts of an editor that goes through lines of text: commands with the lines they are for.
-/

namespace Montage.Editor

/-- An expression that is looked for, or the one that was looked for last. -/
inductive Target
  | same
  | pattern (r : Regex) (look : Regex.Look)

inductive Address
  | line (n : Nat)
  /-- A line and all that follow it at a distance. -/
  | every (first step : Nat)
  | last
  | fits (target : Target)

/-- The line that ends a range. -/
inductive Stop
  | line (n : Nat)
  /-- So many lines more. -/
  | count (n : Nat)
  /-- The next line whose number is a multiple. -/
  | multiple (n : Nat)
  | last
  | fits (target : Target)

/-- The lines that a command is for. -/
structure Selector where
  first : Option Address
  stop : Option Stop
  negated : Bool

/-- How letters are changed that come next. -/
inductive Shift
  | upper
  | lower
  | upperOne
  | lowerOne
  | none
  deriving DecidableEq

/-- A part of what takes the place of a match. -/
inductive Part
  | text (cs : List Char)
  /-- What a part in parentheses has matched; the whole match for zero. -/
  | group (number : Nat)
  | shift (s : Shift)

structure Substitution where
  target : Target
  parts : List Part
  /-- The first match that is replaced. -/
  first : Nat
  all : Bool
  print : Bool
  /-- What comes of it is run as a script. -/
  execute : Bool
  file : Option String

inductive Act
  /-- What follows up to another place is for some lines only. -/
  | open_ (stop : Nat)
  | nothing
  | lineNumber
  | append (text : List Char)
  | insert (text : List Char)
  | change (text : List Char)
  | delete
  | deleteFirst
  | execute (script : List Char)
  | fileName
  | get
  | getMore
  | hold
  | holdMore
  | exchange
  | list (width : Option Nat)
  | next
  | nextMore
  | print
  | printFirst
  | quit (code : Nat)
  | leave (code : Nat)
  | read (file : String)
  | readLine (file : String)
  | substitute (s : Substitution)
  | jump (label : String)
  /-- A jump if something has been replaced, or if nothing has. -/
  | jumpIf (replaced : Bool) (label : String)
  | write (file : String)
  | writeFirst (file : String)
  | replaceEach (pairs : List (Char × Char))
  | clear

structure Command where
  selector : Selector
  act : Act

structure Program where
  commands : Array Command
  labels : List (String × Nat)
  /-- Lines are only shown where a command says so. -/
  quiet : Bool

end Montage.Editor

/-!
Replacing what an expression matches.
-/

namespace Montage.Editor

/-- How the letters that come next are changed: all of them, and the first one. -/
structure Casing where
  all : Shift
  first : Shift

namespace Casing

def plain : Casing :=
  ⟨.none, .none⟩

def after (c : Casing) (s : Shift) : Casing :=
  match s with
  | .upperOne | .lowerOne => { c with first := s }
  | _ => ⟨s, .none⟩

end Casing

/-- A character after a change of case. -/
def Shift.applied (s : Shift) (x : Char) : Char :=
  match s with
  | upper | upperOne => x.toUpper
  | lower | lowerOne => x.toLower
  | none => x

/-- A text with the letters as they were asked for. -/
def Casing.shown (c : Casing) (cs : List Char) : List Char × Casing :=
  match cs with
  | [] => ([], c)
  | x :: rest =>
    let first := if c.first = .none then c.all else c.first
    (first.applied x :: rest.map c.all.applied, { c with first := .none })

/-- What takes the place of a match in a text. -/
def filled (parts : List Part) (text : List Char) (m : Regex.Match) : List Char :=
  (parts.foldl (fun (shown, casing) part =>
    match part with
    | .shift s => (shown, Casing.after casing s)
    | .text cs =>
      let (cs, casing) := Casing.shown casing cs
      (shown ++ cs, casing)
    | .group n =>
      let found := if n = 0 then some (m.text text) else Regex.captured text m.captures n
      let (cs, casing) := Casing.shown casing (found.getD [])
      (shown ++ cs, casing)) ([], Casing.plain)).1

/-- The text from a place on with its matches replaced, from the one whose turn it is; none when
there was nothing to replace. `last` is where the match before ended: an empty one does not count
there. -/
def replaceFrom (s : Substitution) (r : Regex) (look : Regex.Look) (text : List Char) :
    Nat → Nat → Option Nat → Nat → Option (List Char)
  | 0, _, _, _ => none
  | fuel + 1, start, last, turn =>
    match r.find? look text start with
    | none => none
    | some m =>
      let lead := (text.drop start).take (m.start - start)
      let isEmpty := m.start = m.stop
      let step := if isEmpty then 1 else 0
      let skipped := (text.drop m.stop).take step
      let go (turn : Nat) : Option (List Char) :=
        if text.length < m.stop + step then none
        else replaceFrom s r look text fuel (m.stop + step) (some m.stop) turn
      if isEmpty && last = some m.start then (go turn).map (lead ++ skipped ++ ·)
      else if turn < s.first then
        (go (turn + 1)).map (lead ++ m.text text ++ skipped ++ ·)
      else
        let changed := lead ++ filled s.parts text m
        if s.all then
          some (changed ++ skipped ++ ((go (turn + 1)).getD (text.drop (m.stop + step))))
        else some (changed ++ text.drop m.stop)

/-- The text after a substitution, if it has replaced anything. -/
def Substitution.replaced? (s : Substitution) (r : Regex) (look : Regex.Look) (text : List Char) :
    Option (List Char) :=
  replaceFrom s r look text (text.length + 2) 0 none 1

end Montage.Editor
