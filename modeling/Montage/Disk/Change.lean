import Montage.Disk.Basic

/-!
Operations that change a disk. Where only an error is left of one that fails, nothing has changed.
-/

namespace Montage.Disk

/-- The disk with an entry at a place, or with none there. -/
def set (d : Disk) (place : Place) (entry : Option Entry) : Disk :=
  { d with root := d.root.set place entry }

def setContent (d : Disk) (id : Nat) (content : Content) : Disk :=
  { d with files := d.files.set id content }

/-- All of a file written anew. -/
def refill (d : Disk) (id : Nat) (bytes : Text.Bytes) : Disk :=
  d.setContent id ((d.content id).refilled bytes d.now)

/-- The disk with a file of its own at a place. -/
def addFile (d : Disk) (place : Place) (content : Content) : Disk :=
  { d.set place (some (.file d.files.length)) with files := d.files ++ [content] }

def addDirectory (d : Disk) (place : Place) : Disk :=
  d.set place (some (.directory []))

/-- The disk with the directories that lead to a place, as far as nothing is there. -/
def addParents (d : Disk) (place : Place) : Disk :=
  ((List.range place.length).map place.take).foldl (fun d parent =>
    if (d.find? parent).isSome then d else d.addDirectory parent) d

/-- A file to be written to, made if it is not there. -/
def openFile (d : Disk) (p : Path) : Except FileError (Disk × Nat) := do
  match ← d.reach p with
  | .name parent name found false =>
    match found with
    | some (.file id) => .ok (d, id)
    | some _ => .error .isADirectory
    | none => .ok (d.addFile (parent ++ [name]) d.newContent, d.files.length)
  | _ => .error .isADirectory

/-- A file with the given bytes. An existing file keeps its mode. -/
def write (d : Disk) (p : Path) (bytes : Text.Bytes) : Except FileError Disk := do
  let (d, id) ← d.openFile p
  .ok (d.refill id bytes)

def append (d : Disk) (id : Nat) (bytes : Text.Bytes) : Disk :=
  d.refill id ((d.content id).bytes ++ bytes)

def createDirectory (d : Disk) (p : Path) : Except FileError Disk := do
  match ← d.locate p with
  | .name parent name none _ => .ok (d.addDirectory (parent ++ [name]))
  | _ => .error .alreadyExists

/-- A directory, where one that is there already is as good as a new one. When the way to it is
missing, `lead` comes first. -/
def createAfter (lead : Disk → Except FileError Unit × Disk) (p : Path) (d : Disk) :
    Except FileError Unit × Disk :=
  let settle (d : Disk) (e : FileError) : Except FileError Unit × Disk :=
    (if d.isDirectory p then .ok () else .error e, d)
  match d.createDirectory p with
  | .ok d => (.ok (), d)
  | .error .notFound =>
    match lead d with
    | (.error e, d) => (.error e, d)
    | (.ok (), d) =>
      match d.createDirectory p with
      | .ok d => (.ok (), d)
      | .error e => settle d e
  | .error e => settle d e

/-- The directories along a path that is given by its names from the last to the first. -/
def createAlong (absolute : Bool) : List String → Disk → Except FileError Unit × Disk
  | [], d => (.ok (), d)
  | name :: above, d =>
    createAfter (createAlong absolute above) (.ofNames absolute (name :: above).reverse) d

/-- A directory with all that lead to it. The empty path asks for nothing. What was made before
something failed stays. -/
def createDirectories (d : Disk) (p : Path) : Except FileError Unit × Disk :=
  if p.text.isEmpty then (.ok (), d)
  else createAfter (createAlong p.isAbsolute (p.names.reverse.drop 1)) p d

/-- What stands in the way of an entry that is to move from one place to another. -/
def moveError? (entry : Entry) (start stop : Place) (found : Option Entry) : Option FileError :=
  match entry, found with
  | .directory _, found =>
    if start.isPrefixOf stop then some .invalid
    else if stop.isPrefixOf start then some .notEmpty
    else match found with
      | some (.directory (_ :: _)) => some .notEmpty
      | some (.directory []) | none => none
      | some _ => some .notADirectory
  | _, some (.directory _) => some .isADirectory
  | _, _ => none

/-- Whether an entry is one that no other file can take the place of. -/
def isDevice (d : Disk) : Option Entry → Bool
  | some (.file id) => (d.content id).isDevice
  | _ => false

/-- Two entries are the same file. -/
def isSameFile : Entry → Option Entry → Bool
  | .file a, some (.file b) => a = b
  | _, _ => false

/-- A file or a directory moved, in place of another file or of an empty directory. Nothing happens
when both names lead to it already. -/
def rename (d : Disk) (source target : Path) : Except FileError Disk := do
  let first ← d.locate source
  let second ← d.locate target
  match first, second with
  | .name _ _ none _, .name .. => .error .notFound
  | .name _ _ (some entry) slash, .name _ _ found slash' =>
    if !entry.isDirectory && (slash || slash') then .error .notADirectory
    else if first.place = second.place || isSameFile entry found then .ok d
    else if d.isDevice (some entry) || d.isDevice found then .error .otherDevice
    else match moveError? entry first.place second.place found with
      | some e => .error e
      | none => .ok ((d.set first.place none).set second.place (some entry))
  | _, _ => .error .busy

/-- A second file with the same content. A file copied onto itself loses what it held, and a device
keeps nothing. -/
def copy (d : Disk) (source target : Path) : Except FileError Disk := do
  match ← d.look source with
  | .file id =>
    if (d.content id).isDevice then .error .notARegularFile
    else
      let held := d.content id
      let (d, copied) ← d.openFile target
      if (d.content copied).kind = .full ∧ held.bytes ≠ [] then .error .noSpace
      else if (d.content copied).isDevice then .ok d
      else
        let d := d.setContent copied (.new held.mode d.now)
        .ok (d.setContent copied { d.content id with mode := held.mode, modified := d.now })
  | _ => .error .notARegularFile

/-- A second name for a file, where there was nothing. -/
def link (d : Disk) (source target : Path) : Except FileError Disk := do
  let entry ← d.lookHere source
  match ← d.locate target with
  | .name _ _ none true => .error .notFound
  | .name parent name none false =>
    if entry.isDirectory then .error .notPermitted
    else if d.isDevice (some entry) then .error .otherDevice
    else .ok (d.set (parent ++ [name]) (some entry))
  | _ => .error .alreadyExists

/-- A name that stands for another path, where there was nothing. -/
def linkTo (d : Disk) (meaning target : Path) : Except FileError Disk := do
  if meaning.text.isEmpty then .error .notFound
  else match ← d.locate target with
    | .name _ _ none true => .error .notFound
    | .name parent name none false => .ok (d.set (parent ++ [name]) (some (.link meaning)))
    | _ => .error .alreadyExists

def removeFile (d : Disk) (p : Path) : Except FileError Disk := do
  match ← d.locate p with
  | .name _ _ none _ => .error .notFound
  | .name _ _ (some (.directory _)) _ | .directory _ => .error .isADirectory
  | .name parent name (some _) slash =>
    if slash then .error .notADirectory else .ok (d.set (parent ++ [name]) none)

/-- An empty directory removed. -/
def removeDirectory (d : Disk) (p : Path) : Except FileError Disk := do
  match ← d.locate p with
  | .name _ _ none _ => .error .notFound
  | .name parent name (some (.directory [])) _ => .ok (d.set (parent ++ [name]) none)
  | .name _ _ (some (.directory (_ :: _))) _ => .error .notEmpty
  | .name _ _ (some _) _ => .error .notADirectory
  | .directory _ => .error (if p.steps.getLast? = some "." then .invalid else .notEmpty)

/-- The disk with nothing in the directory at a place. -/
def clear (d : Disk) (place : Place) : Disk :=
  if place = [] then { d with root := [] } else d.set place (some (.directory []))

/-- A directory removed with all that is in it. What is in it goes first, so that it is gone also
where the directory itself stays because of how it is named. If its own name leads through what was
in it, it stays and that is no error. A link goes by itself. -/
def removeTree (d : Disk) (p : Path) : Except FileError Unit × Disk :=
  match d.lookHere p, d.locate p with
  | .ok (.directory _), .ok location =>
    let d := d.clear location.place
    match d.removeDirectory p with
    | .ok d => (.ok (), d)
    | .error .notFound => (.ok (), d)
    | .error e => (.error e, d)
  | .ok (.link _), .ok location => (.ok (), d.set location.place none)
  | .ok (.file _), _ => (.error .notADirectory, d)
  | .error e, _ | _, .error e => (.error e, d)

end Montage.Disk
