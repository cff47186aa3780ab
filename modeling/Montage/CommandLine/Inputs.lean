import Montage.CommandLine.Arguments
import Montage.Document.Agent
import Montage.Settings

/-!
The files that commands read. An error says what was being done.
-/

namespace Montage.CommandLine

/-- What a command says when it fails. -/
abbrev Message := String

def readText (disk : Disk) (path : Path) : Except Message String :=
  match disk.readText path with
  | .ok text => .ok text
  | .error _ => .error ("reading " ++ path.text)

def readJson (disk : Disk) (path : Path) : Except Message Json := do
  match Json.parse? (← readText disk path) with
  | some j => .ok j
  | none => .error ("parsing " ++ path.text)

/-- The items of an array, or of the array in the named field. -/
def itemsOf (name : String) : Json → List Json
  | .array items => items
  | j => ((j.field? name).bind Json.array?).getD []

def readEdits (disk : Disk) (path : Path) : Except Message (List (Edit Binary64)) := do
  return (itemsOf "edits" (← readJson disk path)).filterMap Agent.edit?

def readSegments (disk : Disk) (path : Path) : Except Message (List (Segment Binary64)) := do
  match (itemsOf "segments" (← readJson disk path)).mapM Segment.ofJson? with
  | some segments => .ok segments
  | none => .error "invalid segment"

def readIntent (disk : Disk) : Option Path → Except Message (Intent Binary64)
  | none => .ok .default
  | some path => do
    match Intent.ofJson? (← readJson disk path) with
    | some intent => .ok intent
    | none => .error "invalid intent"

/-- The selected segments; none when there are none to select from. -/
def readPicks (disk : Disk) (args : TimelineArguments) : Except Message (List (Pick Binary64)) :=
  match args.segments with
  | none => .ok []
  | some path => do
    let segments ← readSegments disk path
    return (Selection.ofSegments segments (← readIntent disk args.intent)).picks

/-- The settings in the working directory, if they can be read, under those of the environment. -/
def readSettings (disk : Disk) (bindings : List (String × String)) : Settings :=
  let settings := match Settings.read disk ⟨"synoid_export.json"⟩ with
    | .ok (some settings) => settings
    | _ => .default
  settings.withEnvironment bindings

end Montage.CommandLine
