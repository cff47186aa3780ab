import Montage.Number.Binary64
import Montage.Regex.Match

/-!
Programs that work through records: rules with patterns and actions, and functions.
-/

namespace Montage.Record

inductive Arithmetic
  | add
  | subtract
  | multiply
  | divide
  | remainder
  | power

inductive Comparison
  | less
  | lessOrEqual
  | equal
  | different
  | greater
  | greaterOrEqual

/-- The functions that every program has. -/
inductive Native
  | length
  | substring
  | index
  | split
  | sub
  | gsub
  | position
  | format
  | sine
  | cosine
  | angle
  | exponential
  | logarithm
  | root
  | whole
  | random
  | seed
  | lower
  | upper
  | system
  | close
  | flush
  | moment
  | date
  deriving DecidableEq

mutual

/-- What can be given a value. -/
inductive Place
  | named (name : String)
  | field (number : Expr)
  | entry (table : String) (keys : List Expr)

inductive Expr
  | number (x : Binary64)
  | text (cs : List Char)
  /-- Whether an expression is found in the record. -/
  | look (r : Regex)
  | get (place : Place)
  | isIn (keys : List Expr) (table : String)
  | negate (e : Expr)
  | plus (e : Expr)
  | no (e : Expr)
  | arithmetic (op : Arithmetic) (a b : Expr)
  | join (a b : Expr)
  | compare (op : Comparison) (a b : Expr)
  /-- Whether an expression is found in a text, or is not. -/
  | fits (found : Bool) (e pattern : Expr)
  | both (a b : Expr)
  | either (a b : Expr)
  | choose (test yes no : Expr)
  | assign (place : Place) (op : Option Arithmetic) (value : Expr)
  /-- One more or less; the value is the one before or after that. -/
  | step (place : Place) (up after : Bool)
  | call (name : String) (args : List Expr)
  | native (f : Native) (args : List Expr)
  /-- The next record, for a place or as the record at hand. -/
  | readNext (place : Option Place)
  | readFile (name : Expr) (place : Option Place)
  | readCommand (command : Expr) (place : Option Place)

end

instance : Inhabited Expr :=
  ⟨.text []⟩

/-- Where something is written. -/
inductive Target
  | output
  | file (name : Expr) (append : Bool)
  | command (text : Expr)

inductive Statement
  | expr (e : Expr)
  | print (args : List Expr) (target : Target)
  | format (args : List Expr) (target : Target)
  | block (body : List Statement)
  | choice (test : Expr) (yes no : Statement)
  /-- A loop; `first` tells that its body comes before the test, and `step` comes after it. -/
  | loop (first : Bool) (test : Option Expr) (step body : Statement)
  | each (name table : String) (body : Statement)
  | delete (table : String) (keys : Option (List Expr))
  | leaveLoop
  | nextRound
  | nextRecord
  | nextFile
  | leave (status : Option Expr)
  | give (value : Option Expr)

instance : Inhabited Statement :=
  ⟨.block []⟩

/-- What a rule is for. -/
inductive Pattern
  | first
  | last
  | every
  | test (e : Expr)
  /-- From a record for which one thing holds to one for which another does. -/
  | range (start stop : Expr)

structure Rule where
  pattern : Pattern
  action : Statement

structure Function where
  name : String
  parameters : List String
  body : Statement

structure Program where
  rules : List Rule
  functions : List Function

def Program.empty : Program :=
  ⟨[], []⟩

/-- Whether the program looks at records. -/
def Program.reads (p : Program) : Bool :=
  p.rules.any fun rule =>
    match rule.pattern with
    | .first => false
    | _ => true

end Montage.Record
