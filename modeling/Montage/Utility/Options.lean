import Montage.Shell.State

/-!
The options of a command: single letters after a dash, which can be joined, and names after two
dashes. Values stand in the same argument or in the next one. Options may follow other arguments;
after two dashes alone there are none.
-/

namespace Montage.Utility

open Shell

/-- What options a command knows. -/
structure OptionSet where
  /-- The letters; a colon follows one that takes a value, two colons one that may take one. -/
  letters : String
  /-- The names with the keys they stand for; an equals sign ends a name that takes a value, and a
  question mark one that may. -/
  names : List (String × String)
  /-- Whether options may follow other arguments. -/
  mixed : Bool

/-- An option that was given: its letter or its name, and its value. -/
abbrev Given := String × Option String

/-- The options and the other arguments of a command. -/
structure Parsed where
  options : List Given
  operands : List String

namespace Parsed

def has (p : Parsed) (key : String) : Bool :=
  p.options.any (·.1 = key)

/-- All values of an option, in order. -/
def values (p : Parsed) (key : String) : List String :=
  (p.options.filter (·.1 = key)).filterMap (·.2)

/-- The value that was given last. -/
def value? (p : Parsed) (key : String) : Option String :=
  (p.values key).getLast?

/-- The option of some that was given last. -/
def last? (p : Parsed) (keys : List String) : Option String :=
  ((p.options.filter fun given => keys.contains given.1).getLast?).map (·.1)

end Parsed

/-- What is wrong with the options. -/
inductive OptionError
  | unknownLetter (c : Char)
  | unknownName (arg : String)
  | ambiguous (arg : String) (names : List String)
  | letterNeedsValue (c : Char)
  | nameNeedsValue (name : String)
  | unwantedValue (name : String)

def OptionError.message : OptionError → String
  | unknownLetter c => "invalid option -- '" ++ String.ofList [c] ++ "'"
  | unknownName arg => "unrecognized option '" ++ arg ++ "'"
  | ambiguous arg names => "option '" ++ arg ++ "' is ambiguous; possibilities:" ++
    String.join (names.map fun name => " '--" ++ name ++ "'")
  | letterNeedsValue c => "option requires an argument -- '" ++ String.ofList [c] ++ "'"
  | nameNeedsValue name => "option '--" ++ name ++ "' requires an argument"
  | unwantedValue name => "option '--" ++ name ++ "' doesn't allow an argument"

namespace OptionSet

/-- Whether a value belongs to an option. -/
inductive Need
  | nothing
  | value
  | maybe
  deriving DecidableEq

/-- What a letter needs, if it is known. -/
def need? (o : OptionSet) (c : Char) : Option Need :=
  match if c = ':' then [] else o.letters.toList.dropWhile (· ≠ c) with
  | [] => none
  | _ :: ':' :: ':' :: _ => some .maybe
  | _ :: ':' :: _ => some .value
  | _ => some .nothing

/-- A name without its mark, and what it needs. -/
def nameNeed (name : String) : String × Need :=
  match name.toList.getLast? with
  | some '=' => (String.ofList name.toList.dropLast, .value)
  | some '?' => (String.ofList name.toList.dropLast, .maybe)
  | _ => (name, .nothing)

/-- The name that is meant by its beginning. -/
def nameFor (o : OptionSet) (arg : String) (begun : List Char) :
    Except OptionError (String × String × Need) :=
  let known := o.names.map fun (name, key) => ((nameNeed name).1, key, (nameNeed name).2)
  let fitting := known.filter fun (name, _) => begun.isPrefixOf name.toList
  match known.find? (·.1.toList = begun), fitting with
  | some found, _ => .ok found
  | none, [] => .error (.unknownName arg)
  | none, first :: rest =>
    if rest.all (·.2 = first.2) then .ok first
    else .error (.ambiguous arg (fitting.map (·.1)))

/-- The options joined after one dash, the first argument after it at hand. The flag tells whether
that argument was taken as a value. -/
def takeLetters (o : OptionSet) (next : Option String) :
    List Char → Except OptionError (List Given × Bool)
  | [] => .ok ([], false)
  | c :: rest =>
    let key := String.ofList [c]
    match o.need? c with
    | none => .error (.unknownLetter c)
    | some .nothing => (takeLetters o next rest).map fun (given, taken) =>
      ((key, none) :: given, taken)
    | some .maybe =>
      .ok ([(key, if rest.isEmpty then none else some (String.ofList rest))], false)
    | some .value =>
      if !rest.isEmpty then .ok ([(key, some (String.ofList rest))], false)
      else match next with
        | some value => .ok ([(key, some value)], true)
        | none => .error (.letterNeedsValue c)

/-- An option by its name. -/
def takeName (o : OptionSet) (next : Option String) (arg : String) :
    Except OptionError (Given × Bool) := do
  let text := arg.toList.drop 2
  let begun := text.takeWhile (· ≠ '=')
  let value := if begun.length < text.length then
    some (String.ofList (text.drop (begun.length + 1))) else none
  let shown := if value.isSome then "--" ++ String.ofList begun else arg
  let (name, key, need) ← o.nameFor shown begun
  match need, value with
  | .nothing, some _ => .error (.unwantedValue name)
  | .value, none =>
    match next with
    | some value => .ok ((key, some value), true)
    | none => .error (.nameNeedsValue name)
  | _, value => .ok ((key, value), false)

/-- The options among some arguments. -/
def parse (o : OptionSet) (args : List String) : Except OptionError Parsed :=
  match args with
  | [] => .ok ⟨[], []⟩
  | "--" :: rest => .ok ⟨[], rest⟩
  | arg :: rest =>
    match arg.toList with
    | '-' :: '-' :: _ => do
      let (given, taken) ← o.takeName rest.head? arg
      let p ← parse o (rest.drop (if taken then 1 else 0))
      .ok { p with options := given :: p.options }
    | '-' :: c :: letters => do
      let (given, taken) ← o.takeLetters rest.head? (c :: letters)
      let p ← parse o (rest.drop (if taken then 1 else 0))
      .ok { p with options := given ++ p.options }
    | _ =>
      if o.mixed then (parse o rest).map fun p => { p with operands := arg :: p.operands }
      else .ok ⟨[], args⟩
termination_by args.length
decreasing_by
  all_goals simp only [List.length_drop, List.length_cons]
  all_goals omega

end OptionSet

/-- The options of most commands. -/
def options (letters : String) (names : List (String × String)) : OptionSet :=
  ⟨letters, names, true⟩

/-- The options of a command that hands what follows to another one. -/
def leadingOptions (letters : String) (names : List (String × String)) : OptionSet :=
  ⟨letters, names, false⟩

/-- What a command says about how it has to be called. -/
def misused (s : State) (command text : String) (status : Nat) : State :=
  (s.complain (command ++ ": " ++ text ++ "\nTry '" ++ command ++
    " --help' for more information.")).finish status

/-- A command with the options it was given, or a complaint about them. -/
def withOptions (command : String) (o : OptionSet) (trouble : Nat)
    (body : State → Parsed → State) (s : State) (args : List String) : State :=
  match o.parse args with
  | .ok p => body (s.finish 0) p
  | .error e => misused s command e.message trouble

end Montage.Utility
