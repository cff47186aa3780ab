import Montage.Disk.Path
import Montage.Number.Floating
import Montage.Number.Numeral

/-!
The arguments of the command line. They are read from the left: the first that is wrong makes the
whole line wrong, and a request for help before it is answered.
-/

namespace Montage.CommandLine

/-- Why the arguments do not name a command to run. -/
inductive Refusal
  | help
  | usage
  deriving DecidableEq

inductive ValueKind
  | path
  | real
  | size
  deriving DecidableEq

/-- An option; each takes one value and may be given once. -/
structure OptionSpec where
  long : String
  short : Option Char
  kind : ValueKind
  required : Bool

/-- The values given, by the names of their options. -/
abbrev Given := List (String × String)

/-- A whole number with an optional sign that fits 32 bits. -/
def size? (cs : List Char) : Option Nat :=
  match cs with
  | '-' :: digits => (digits.head?.filter Char.isDigit).bind fun _ => Numeral.natural? 1 digits
  | cs => Numeral.natural? (pow2 32) cs

def ValueKind.admits (kind : ValueKind) (value : String) : Bool :=
  match kind with
  | path => value ≠ ""
  | real => (Numeral.real? value.toList).isSome
  | size => (size? value.toList).isSome

/-- A value for an option that has none yet. -/
def give (given : Given) (spec : OptionSpec) (value : String) : Except Refusal Given :=
  if (given.lookup spec.long).isSome ∨ !spec.kind.admits value then .error .usage
  else .ok ((spec.long, value) :: given)

/-- Begins like an option. A dash alone is a value. -/
def looksLikeOption (arg : String) : Bool :=
  arg.toList.head? = some '-' && arg ≠ "-"

/-- The option that an argument names, and the value that is written with it. -/
def option? (specs : List OptionSpec) (arg : List Char) :
    Except Refusal (OptionSpec × Option String) :=
  match arg with
  | '-' :: '-' :: body =>
    let name := String.ofList (body.takeWhile (· ≠ '='))
    let value := match body.dropWhile (· ≠ '=') with
      | [] => none
      | _ :: value => some (String.ofList value)
    if name = "help" then .error (if value.isNone then .help else .usage)
    else match specs.find? (·.long = name) with
      | some spec => .ok (spec, value)
      | none => .error .usage
  | '-' :: c :: body =>
    if c = 'h' then .error .help
    else match specs.find? (·.short = some c) with
      | some spec =>
        let value := if body.head? = some '=' then body.drop 1 else body
        .ok (spec, if body.isEmpty then none else some (String.ofList value))
      | none => .error .usage
  | _ => .error .usage

/-- The values of all options among the arguments. -/
def readOptions (specs : List OptionSpec) (given : Given) : List String → Except Refusal Given
  | [] => .ok given
  | ["--"] => .ok given
  | [arg] => do
    match ← option? specs arg.toList with
    | (spec, some value) => give given spec value
    | (_, none) => .error .usage
  | arg :: next :: rest => do
    if arg = "--" then .error .usage
    else match ← option? specs arg.toList with
      | (spec, some value) => readOptions specs (← give given spec value) (next :: rest)
      | (spec, none) =>
        if looksLikeOption next then .error .usage
        else readOptions specs (← give given spec next) rest

/-- Every required option has a value. -/
def isComplete (specs : List OptionSpec) (given : Given) : Bool :=
  specs.all fun spec => !spec.required || (given.lookup spec.long).isSome

/-- Where the clips and the edits come from. -/
structure TimelineArguments where
  edits : Path
  segments : Option Path
  intent : Option Path
  duration : Option Binary64
  deriving DecidableEq

inductive Instant
  | media (t : Binary64)
  | timeline (t : Binary64)
  deriving DecidableEq

inductive Command
  | select (segments : Path) (intent : Option Path)
  | compile (timeline : TimelineArguments)
  | plan (timeline : TimelineArguments) (width height : Nat)
  | parse (response : Path) (duration : Binary64) (segments : Option Path)
  | analyze (input : Path)
  | scrub (timeline : TimelineArguments) (instant : Instant)
  | export (input : Path) (timeline : TimelineArguments) (output : Path) (music : Option Path)
      (volume : Option Binary64)
  deriving DecidableEq

def timelineSpecs : List OptionSpec :=
  [⟨"edits", some 'e', .path, true⟩, ⟨"segments", none, .path, false⟩,
    ⟨"intent", none, .path, false⟩, ⟨"duration", some 'd', .real, false⟩]

/-- The options of every command. -/
def commands : List (String × List OptionSpec) :=
  [("select", [⟨"segments", none, .path, true⟩, ⟨"intent", none, .path, false⟩]),
    ("compile", timelineSpecs),
    ("plan", timelineSpecs ++ [⟨"width", none, .size, false⟩, ⟨"height", none, .size, false⟩]),
    ("parse", [⟨"response", some 'r', .path, true⟩, ⟨"duration", some 'd', .real, false⟩,
      ⟨"segments", some 's', .path, false⟩]),
    ("analyze", [⟨"input", some 'i', .path, true⟩]),
    ("scrub", timelineSpecs ++ [⟨"media", none, .real, false⟩, ⟨"timeline", none, .real, false⟩]),
    ("export", timelineSpecs ++ [⟨"input", some 'i', .path, true⟩,
      ⟨"output", some 'o', .path, true⟩, ⟨"bgm", none, .path, false⟩,
      ⟨"bgm-volume", none, .real, false⟩])]

namespace Given

def path? (given : Given) (name : String) : Option Path :=
  (given.lookup name).map Path.mk

def real? (given : Given) (name : String) : Option Binary64 :=
  (given.lookup name).bind fun value => Numeral.real? value.toList

def size (given : Given) (name : String) (default : Nat) : Nat :=
  ((given.lookup name).bind fun value => size? value.toList).getD default

def timeline? (given : Given) : Option TimelineArguments := do
  some ⟨← path? given "edits", path? given "segments", path? given "intent",
    real? given "duration"⟩

/-- Exactly one of the two clocks. -/
def instant? (given : Given) : Option Instant :=
  match real? given "media", real? given "timeline" with
  | some t, none => some (.media t)
  | none, some t => some (.timeline t)
  | _, _ => none

def command? (given : Given) (name : String) : Option Command := do
  match name with
  | "select" => some (.select (← path? given "segments") (path? given "intent"))
  | "compile" => (timeline? given).map .compile
  | "plan" => some (.plan (← timeline? given) (size given "width" 1920) (size given "height" 1080))
  | "parse" =>
    some (.parse (← path? given "response") ((real? given "duration").getD 0)
      (path? given "segments"))
  | "analyze" => (path? given "input").map .analyze
  | "scrub" => some (.scrub (← timeline? given) (← instant? given))
  | "export" =>
    some (.export (← path? given "input") (← timeline? given) (← path? given "output")
      (path? given "bgm") (real? given "bgm-volume"))
  | _ => none

end Given

/-- What is asked for with the command `help`: nothing, or one command. -/
def helpTopic (names : List String) : Refusal :=
  match names with
  | [] => .help
  | [name] => if name = "help" ∨ (commands.lookup name).isSome then .help else .usage
  | _ => .usage

/-- The command that the arguments name. -/
def Command.ofArguments (args : List String) : Except Refusal Command :=
  match args with
  | [] => .error .usage
  | name :: rest =>
    if name = "help" then .error (helpTopic rest)
    else match commands.lookup name with
      | some specs => do
        let given ← readOptions specs [] rest
        match if isComplete specs given then Given.command? given name else none with
        | some command => .ok command
        | none => .error .usage
      | none =>
        match option? [] name.toList with
        | .error refusal => .error refusal
        | .ok _ => .error .usage

end Montage.CommandLine
