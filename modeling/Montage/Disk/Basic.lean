import Montage.Disk.Path
import Montage.Number.Decimal
import Montage.Text.Utf8

/-!
Why files cannot be used, and what is said about it.
-/

namespace Montage

/-- Why a file cannot be used. -/
inductive FileError
  | notFound
  | notADirectory
  | isADirectory
  | alreadyExists
  | permissionDenied
  | notPermitted
  | nameTooLong
  | tooManyLinks
  | notEmpty
  | otherDevice
  | busy
  | invalid
  | notAProgram
  | argumentsTooLong
  | badStream
  | noSpace
  | notARegularFile
  | nulInName
  | nulInArgument
  | notText
  deriving DecidableEq

namespace FileError

/-- The system's words and number for an error; none when the system was never asked. -/
def system? : FileError → Option (String × Nat)
  | notFound => some ("No such file or directory", 2)
  | notADirectory => some ("Not a directory", 20)
  | isADirectory => some ("Is a directory", 21)
  | alreadyExists => some ("File exists", 17)
  | permissionDenied => some ("Permission denied", 13)
  | notPermitted => some ("Operation not permitted", 1)
  | nameTooLong => some ("File name too long", 36)
  | tooManyLinks => some ("Too many levels of symbolic links", 40)
  | notEmpty => some ("Directory not empty", 39)
  | otherDevice => some ("Invalid cross-device link", 18)
  | busy => some ("Device or resource busy", 16)
  | invalid => some ("Invalid argument", 22)
  | notAProgram => some ("Exec format error", 8)
  | argumentsTooLong => some ("Argument list too long", 7)
  | badStream => some ("Bad file descriptor", 9)
  | noSpace => some ("No space left on device", 28)
  | notARegularFile | nulInName | nulInArgument | notText => none

def isSystem (e : FileError) : Bool :=
  e.system?.isSome

/-- What went wrong, without a number. -/
def words : FileError → String
  | notARegularFile => "the source path is neither a regular file nor a symlink to a regular file"
  | nulInName => "file name contained an unexpected NUL byte"
  | nulInArgument => "nul byte found in provided data"
  | notText => "stream did not contain valid UTF-8"
  | e => (e.system?.map (·.1)).getD ""

def message (e : FileError) : String :=
  match e.system? with
  | some (words, number) => words ++ " (os error " ++ Decimal.natural number ++ ")"
  | none => e.words

end FileError

end Montage

/-!
Files and directories as a value. A name in a directory leads to a directory, to a file or to
another path, and several names can lead to one file. A path is looked up from a working directory;
every name on the way but the last has to lead to a directory.
-/

namespace Montage

/-- What a name leads to. -/
inductive Entry
  | file (id : Nat)
  | directory (entries : List (String × Entry))
  /-- Another path, from the directory of the name. -/
  | link (target : Path)

def Entry.isDirectory : Entry → Bool
  | directory _ => true
  | _ => false

abbrev Entries := List (String × Entry)

mutual

/-- The place of an entry and all places below it. -/
def Entry.places (place : List String) : Entry → List (List String)
  | .file _ | .link _ => [place]
  | .directory entries => place :: placesBelow place entries

def placesBelow (place : List String) : List (String × Entry) → List (List String)
  | [] => []
  | (name, entry) :: rest => entry.places (place ++ [name]) ++ placesBelow place rest

end

/-- What sort of file it is. -/
inductive FileKind
  | regular
  /-- A device: whatever is written to it is gone. -/
  | sink
  /-- The same, but zeros without end can be read from it. -/
  | zeros
  /-- A device to which nothing can be written. -/
  | full
  /-- A program of the system, known by its name. -/
  | program (name : String)
  deriving DecidableEq

def FileKind.isDevice : FileKind → Bool
  | sink | zeros | full => true
  | _ => false

structure Content where
  bytes : Text.Bytes
  /-- Who may do what with it, in bits. -/
  mode : Nat
  kind : FileKind
  /-- When it was written last, in thousandths of a second since 1970. -/
  modified : Int
  deriving DecidableEq

namespace Content

/-- A regular file with nothing in it. -/
def new (mode : Nat) (now : Int) : Content :=
  ⟨[], mode, .regular, now⟩

def isDevice (c : Content) : Bool :=
  c.kind.isDevice

/-- Someone may run it. -/
def executable (c : Content) : Bool :=
  c.mode &&& 0o111 ≠ 0

/-- The file after all of it has been written anew. -/
def refilled (c : Content) (bytes : Text.Bytes) (now : Int) : Content :=
  if c.isDevice then c else { c with bytes := bytes, kind := .regular, modified := now }

end Content

/-- A place: the names from the root. -/
abbrev Place := List String

/-- What is where. A file is the number of its content. -/
structure Disk where
  root : Entries
  files : List Content
  workingDirectory : Place
  /-- The bits that the mode of a new file does not get. -/
  mask : Nat
  /-- The time. It stands still except where something waits. -/
  now : Int

namespace Entries

/-- The entries with one under a name, or with none. -/
def put (entries : Entries) (name : String) (entry : Option Entry) : Entries :=
  (entry.toList.map (name, ·)) ++ entries.filter (·.1 ≠ name)

/-- What is at a place below. -/
def find? (entries : Entries) : Place → Option Entry
  | [] => some (.directory entries)
  | name :: rest =>
    match entries.lookup name with
    | some (.directory inner) => find? inner rest
    | found => if rest = [] then found else none

/-- The entries with one at a place below, or with none; unchanged when nothing leads there. -/
def set (entries : Entries) (place : Place) (entry : Option Entry) : Entries :=
  match place with
  | [] => entries
  | [name] => entries.put name entry
  | name :: rest =>
    match entries.lookup name with
    | some (.directory inner) => entries.put name (some (.directory (set inner rest entry)))
    | _ => entries

end Entries

/-- A directory, with the names that lead to it and the directories above it, nearest first. -/
structure Spot where
  entries : Entries
  above : List (String × Entries)

namespace Spot

def place (s : Spot) : Place :=
  (s.above.map (·.1)).reverse

/-- The directory above; the root is above itself. -/
def up (s : Spot) : Spot :=
  match s.above with
  | [] => s
  | (_, entries) :: above => ⟨entries, above⟩

/-- The bytes of the longest name. -/
def nameLimit : Nat :=
  255

def lookup (s : Spot) (name : String) : Except FileError (Option Entry) :=
  if nameLimit < name.utf8ByteSize then .error .nameTooLong else .ok (s.entries.lookup name)

/-- How many links may be met on the way. -/
def linkLimit : Nat :=
  40

/-- The directory to which some names lead, one below the other. At a link, `enter` goes on with the
names that are left. -/
def walkUntil (enter : Spot → Path → List String → Except FileError Spot) :
    Spot → List String → Except FileError Spot
  | s, [] => .ok s
  | s, name :: rest =>
    if name = "." then walkUntil enter s rest
    else if name = ".." then walkUntil enter s.up rest
    else match s.lookup name with
      | .error e => .error e
      | .ok none => .error .notFound
      | .ok (some (.file _)) => .error .notADirectory
      | .ok (some (.directory inner)) =>
        walkUntil enter ⟨inner, (name, s.entries) :: s.above⟩ rest
      | .ok (some (.link target)) => enter s target rest

/-- The same, with at most so many links on the way. What a link stands for takes its place among
the names. -/
def walk (top : Spot) : Nat → Spot → List String → Except FileError Spot
  | 0 => walkUntil fun _ _ _ => .error .tooManyLinks
  | links + 1 => walkUntil fun s target rest =>
    walk top links (if target.isAbsolute then top else s) (target.steps ++ rest)

end Spot

/-- Where a path leads. -/
inductive Location
  /-- A directory named by the root or by dots, and so certain to be there. -/
  | directory (spot : Spot)
  /-- A name in a directory, what it leads to, and whether a slash follows it. -/
  | name (parent : Place) (name : String) (found : Option Entry) (slash : Bool)

def Location.place : Location → Place
  | directory spot => spot.place
  | name parent last .. => parent ++ [last]

/-- What can be seen of an entry. -/
inductive Node
  | file (content : Content)
  | directory
  | link (target : Path)
  deriving DecidableEq

namespace Disk

/-- A time to begin with; only differences between times tell anything. -/
def firstMoment : Int :=
  1760000000000

/-- A device that anyone may use. -/
def device (kind : FileKind) : Content :=
  ⟨[], 0o666, kind, firstMoment⟩

/-- A disk with nothing but some devices. -/
def empty (workingDirectory : Place) : Disk :=
  { root := [("dev", .directory [("null", .file 0), ("zero", .file 1), ("full", .file 2)])]
    files := [device .sink, device .zeros, device .full]
    workingDirectory := workingDirectory
    mask := 0o022
    now := firstMoment }

/-- A new regular file. -/
def newContent (d : Disk) : Content :=
  .new (0o666 - (0o666 &&& d.mask)) d.now

def top (d : Disk) : Spot :=
  ⟨d.root, []⟩

/-- All places where something is. -/
def places (d : Disk) : List Place :=
  placesBelow [] d.root

def content (d : Disk) (id : Nat) : Content :=
  d.files[id]?.getD (.new 0 d.now)

def node (d : Disk) : Entry → Node
  | .file id => .file (d.content id)
  | .directory _ => .directory
  | .link target => .link target

def find? (d : Disk) (place : Place) : Option Node :=
  (d.root.find? place).map d.node

/-- The bytes of the shortest path that is too long. -/
def pathLimit : Nat :=
  4096

/-- Where some names lead from a directory, whether or not something is there. A link at the end
counts as what it stands for when that is asked for, or when a slash follows it; `enter` goes on
there. -/
def locateUntil (d : Disk) (enter : Spot → Path → Except FileError Location) (follow : Bool)
    (start : Spot) (steps : List String) (slash : Bool) : Except FileError Location :=
  match steps.getLast? with
  | none => .ok (.directory start)
  | some last =>
    if last = "." ∨ last = ".." then
      (Spot.walk d.top Spot.linkLimit start steps).map Location.directory
    else do
      let parent ← Spot.walk d.top Spot.linkLimit start steps.dropLast
      match ← parent.lookup last with
      | some (.link target) =>
        if follow || slash then enter parent target
        else .ok (.name parent.place last (some (.link target)) slash)
      | found => .ok (.name parent.place last found slash)

/-- The same, with at most so many links at the end. -/
def locateFrom (d : Disk) (follow : Bool) :
    Nat → Spot → List String → Bool → Except FileError Location
  | 0, start, steps, slash =>
    d.locateUntil (fun _ _ => .error .tooManyLinks) follow start steps slash
  | links + 1, start, steps, slash =>
    d.locateUntil (fun parent target =>
      locateFrom d true links (if target.isAbsolute then d.top else parent) target.steps
        (slash || target.endsInSlash)) follow start steps slash

/-- Where a path leads; a link at its end is told apart from what it stands for. -/
def locateBy (d : Disk) (follow : Bool) (p : Path) : Except FileError Location :=
  if p.text.toList.any (· = Char.ofNat 0) then .error .nulInName
  else if p.text.isEmpty then .error .notFound
  else if pathLimit ≤ p.text.utf8ByteSize then .error .nameTooLong
  else do
    let start ← if p.isAbsolute then .ok d.top
      else Spot.walk d.top Spot.linkLimit d.top d.workingDirectory
    locateFrom d follow Spot.linkLimit start p.steps p.endsInSlash

/-- Where a path leads, whether or not something is there. -/
def locate (d : Disk) (p : Path) : Except FileError Location :=
  d.locateBy false p

/-- The same, with a link at the end followed. -/
def reach (d : Disk) (p : Path) : Except FileError Location :=
  d.locateBy true p

/-- What is at a location. -/
def lookAt : Location → Except FileError Entry
  | .directory spot => .ok (.directory spot.entries)
  | .name _ _ none _ => .error .notFound
  | .name _ _ (some (.file _)) true => .error .notADirectory
  | .name _ _ (some entry) _ => .ok entry

/-- What is at a path, seen through links. -/
def look (d : Disk) (p : Path) : Except FileError Entry := do
  lookAt (← d.reach p)

/-- What is at a path, be it a link. -/
def lookHere (d : Disk) (p : Path) : Except FileError Entry := do
  lookAt (← d.locate p)

def node? (d : Disk) (p : Path) : Option Node :=
  match d.look p with
  | .ok entry => some (d.node entry)
  | .error _ => none

def isThere (d : Disk) (p : Path) : Bool :=
  (d.node? p).isSome

/-- Whether a regular file is at a path. -/
def isFile (d : Disk) (p : Path) : Bool :=
  match d.look p with
  | .ok (.file id) => !(d.content id).isDevice
  | _ => false

def isDirectory (d : Disk) (p : Path) : Bool :=
  match d.look p with
  | .ok entry => entry.isDirectory
  | .error _ => false

def read (d : Disk) (p : Path) : Except FileError Text.Bytes := do
  match ← d.look p with
  | .file id => .ok (d.content id).bytes
  | _ => .error .isADirectory

/-- When what is at a path was written last. Directories and links are as old as the disk. -/
def modifiedOf (d : Disk) : Entry → Int
  | .file id => (d.content id).modified
  | _ => firstMoment

def modifiedAt? (d : Disk) (p : Path) : Option Int :=
  (d.look p).toOption.map d.modifiedOf

/-- The text of a file. -/
def readText (d : Disk) (p : Path) : Except FileError String := do
  match Text.decode? (← d.read p) with
  | some text => .ok text
  | none => .error .notText

/-- The names in a directory, in order. -/
def list (d : Disk) (p : Path) : Except FileError (List String) := do
  match ← d.look p with
  | .directory entries => .ok ((entries.map (·.1)).mergeSort fun a b => decide (a ≤ b))
  | _ => .error .notADirectory

/-- What a link stands for. -/
def readLink (d : Disk) (p : Path) : Except FileError Path := do
  match ← d.lookHere p with
  | .link target => .ok target
  | _ => .error .invalid

end Disk

end Montage
