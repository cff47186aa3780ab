/-!
Names in a shell: those of variables, and the words that have a meaning of their own.
-/

namespace Montage.Shell

def isNameStart (c : Char) : Bool :=
  c.isAlpha || c = '_'

def isNameChar (c : Char) : Bool :=
  c.isAlphanum || c = '_'

def isName (name : String) : Bool :=
  match name.toList with
  | [] => false
  | c :: rest => isNameStart c && rest.all isNameChar

/-- The parameters that are named by one character that is no letter. -/
def isSpecial (c : Char) : Bool :=
  c.isDigit || "@*#?$!-".toList.contains c

def isBlank (c : Char) : Bool :=
  c = ' ' || c = '\t'

/-- Characters that end a word when they stand outside quotes. -/
def endsWord (c : Char) : Bool :=
  isBlank c || c = '\n' || c = ';' || c = '&' || c = '|' || c = '<' || c = '>' || c = '(' || c = ')'

/-- The words with a meaning of their own at the beginning of a command. -/
def keywords : List String :=
  ["if", "then", "elif", "else", "fi", "for", "while", "until", "do", "done", "case", "esac", "in",
    "!", "\x7b", "\x7d"]

/-- The commands after which assignments in front of them stay, and whose mistakes end the
script. -/
def specialNames : List String :=
  [":", ".", "break", "continue", "eval", "exec", "exit", "export", "local", "readonly", "return",
    "set", "shift", "times", "trap", "unset"]

end Montage.Shell

/-!
Commands of a small shell, and the words they are made of.
-/

namespace Montage.Shell

/-- What is done with the value of a parameter. -/
inductive Use
  | plain
  | length
  /-- The shortest or the longest match of a pattern is cut off, at either end. -/
  | cut (atEnd longest : Bool)
  /-- Another text stands for a value that is missing, or that is missing or empty. -/
  | otherwise (emptyToo : Bool)
  /-- That text also becomes the value. -/
  | assign (emptyToo : Bool)
  /-- Another text stands for a value that is there. -/
  | instead (emptyToo : Bool)
  /-- A value that is missing ends the script. -/
  | demand (emptyToo : Bool)

/-- A part of a word, in which `α` stands for a script. What is quoted is not split into fields. -/
inductive Piece (α : Type)
  | text (cs : List Char) (quoted : Bool)
  | value (name : String) (use : Use) (word : List (Piece α)) (quoted : Bool)
  /-- What a script writes. -/
  | output (script : α) (quoted : Bool)
  /-- The value of an expression. -/
  | result (expression : List (Piece α)) (quoted : Bool)
  /-- Braces that make no sense. -/
  | nonsense

/-- How a file is opened. -/
inductive Opening
  | read
  | write
  | append
  | both
  deriving DecidableEq

/-- Where a stream comes from or leads. -/
inductive Target (α : Type)
  | file (word : List (Piece α)) (how : Opening) (force : Bool)
  /-- Another stream, or none where the word is a dash. -/
  | stream (word : List (Piece α))
  /-- Lines of the script itself, which are kept under a number. -/
  | document (number : Nat)

structure Redirect (α : Type) where
  stream : Nat
  target : Target α

inductive Command
  | simple (line : Nat) (assigned : List (String × List (Piece (List Command))))
      (words : List (List (Piece (List Command)))) (redirects : List (Redirect (List Command)))
  | pipeline (stages : List Command)
  | both (first second : Command)
  | either (first second : Command)
  | negate (inner : Command)
  | background (inner : Command)
  | group (body : List Command)
  | subshell (line : Nat) (body : List Command) (redirects : List (Redirect (List Command)))
  /-- Without a list, the arguments of the script are run through. -/
  | forEach (line : Nat) (name : String) (items : Option (List (List (Piece (List Command)))))
      (body : List Command)
  | choose (line : Nat) (subject : List (Piece (List Command)))
      (branches : List (List (List (Piece (List Command))) × List Command))
  | branch (condition onTrue onFalse : List Command)
  /-- Runs its body as long as the condition succeeds, or as long as it fails. -/
  | repeat_ (whileTrue : Bool) (condition body : List Command)
  | define (name : String) (body : Command)
  | redirected (line : Nat) (inner : Command) (redirects : List (Redirect (List Command)))

/-- Commands in order. -/
abbrev Script := List Command

abbrev Word := List (Piece Script)

abbrev Redirects := List (Redirect Script)

end Montage.Shell
