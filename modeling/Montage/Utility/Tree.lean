import Montage.Disk.Mode
import Montage.Utility.Calendar

/-!
Commands that make and remove files and directories.
-/

namespace Montage.Utility

open Shell

/-- A complaint about what was to be done with a file. -/
def failedTo (s : State) (command what name : String) (e : FileError) : State :=
  (s.complain (command ++ ": " ++ what ++ " " ++ quotedName name ++ ": " ++ e.words)).finish 1

/-- The disk after an operation, or a complaint about it. -/
def settleDisk (s : State) (command what name : String) (result : Except FileError Disk) : State :=
  match result with
  | .ok disk => { s with disk := disk }
  | .error e => failedTo s command what name e

/-! ### Directories -/

/-- The beginnings of a path that end with one of its names, shortest first. -/
def pathStarts (cs : List Char) : List (List Char) :=
  let lead := cs.takeWhile (· = '/')
  let rest := cs.drop lead.length
  let names := (Text.splitOn (· = '/') rest)
  let starts := (List.range names.length).filter fun i => !(names[i]?.getD []).isEmpty
  let ends := starts.map fun i => lead ++ ['/'].intercalate (names.take (i + 1))
  match ends.getLast? with
  | some _ => ends.dropLast ++ [cs]
  | none => [cs]

/-- A directory with those that lead to it. -/
def makePath (verbose : Bool) (s : State) (name : String) : State :=
  let starts := (pathStarts name.toList).map String.ofList
  let step (s : State) (start : String) : Except State State :=
    if s.disk.isDirectory (pathOf start) then .ok s
    else match s.disk.createDirectory (pathOf start) with
      | .ok disk =>
        let s := { s with disk := disk }
        .ok (if verbose then s.say ("mkdir: created directory " ++ quotedName start ++ "\n") else s)
      | .error e =>
        let e := if e = .alreadyExists && start ≠ name then .notADirectory else e
        .error (failedTo s "mkdir" "cannot create directory" start e)
  match starts.foldlM step s with
  | .ok s | .error s => s

def mkdir : State → List String → State :=
  withOptions "mkdir" (options "m:pvZ" [("mode=", "m"), ("parents", "p"), ("verbose", "v"),
    ("context?", "Z")]) 1 fun s p =>
    if p.operands.isEmpty then misused s "mkdir" "missing operand" 1
    else match (p.value? "m").filter fun text => (Mode.after? text.toList true 0 0o777).isNone with
      | some text => (s.complain ("mkdir: invalid mode " ++ quotedName text)).finish 1
      | none =>
        p.operands.foldl (fun s name =>
          if p.has "p" then makePath (p.has "v") s name
          else match s.disk.createDirectory (pathOf name) with
            | .ok disk =>
              let s := { s with disk := disk }
              if p.has "v" then
                s.say ("mkdir: created directory " ++ quotedName name ++ "\n")
              else s
            | .error e => failedTo s "mkdir" "cannot create directory" name e) s

/-- The paths above a path by its text alone, nearest first. -/
def parentTexts : Nat → List Char → List (List Char)
  | 0, _ => []
  | fuel + 1, cs =>
    let body := (cs.reverse.dropWhile (· = '/')).dropWhile (· ≠ '/')
    let parent := (body.dropWhile (· = '/')).reverse
    if parent.isEmpty then [] else parent :: parentTexts fuel parent

def removeDirectory (d : Disk) (name : String) : Except FileError Disk :=
  if !name.isEmpty && name.toList.all (· = '/') then .error .busy
  else d.removeDirectory (pathOf name)

def rmdir : State → List String → State :=
  withOptions "rmdir" (options "pv" [("parents", "p"), ("verbose", "v"),
    ("ignore-fail-on-non-empty", "ignore")]) 1 fun s p =>
    if p.operands.isEmpty then misused s "rmdir" "missing operand" 1
    else p.operands.foldl (fun s name =>
      let above := if p.has "p" then
        (parentTexts name.length name.toList).map fun cs => (String.ofList cs, " directory")
        else []
      let step (s : State) (place : String × String) : Except State State :=
        let (path, what) := place
        let s := if p.has "v" then
            s.say ("rmdir: removing directory, " ++ quotedName path ++ "\n") else s
        match removeDirectory s.disk path with
        | .ok disk => .ok { s with disk := disk }
        | .error .notEmpty =>
          .error (if p.has "ignore" then s
            else failedTo s "rmdir" ("failed to remove" ++ what) path .notEmpty)
        | .error e => .error (failedTo s "rmdir" ("failed to remove" ++ what) path e)
      match ((name, "") :: above).foldlM step s with
      | .ok s | .error s => s) s

/-! ### Removing -/

/-- The paths of what is below an entry and of the entry itself, which comes last. -/
def pathsBelow (path : String) : Entry → List (String × Bool)
  | .directory entries => below path entries ++ [(path, true)]
  | _ => [(path, false)]
where
  below (path : String) : List (String × Entry) → List (String × Bool)
    | [] => []
    | (name, entry) :: rest => pathsBelow (path ++ "/" ++ inBytes name) entry ++ below path rest

/-- What a file is, in words. -/
def kindWords (d : Disk) : Entry → String
  | .directory _ => "directory"
  | .link _ => "symbolic link"
  | .file id =>
    let content := d.content id
    if content.isDevice then "character special file"
    else if content.bytes.isEmpty then "regular empty file"
    else "regular file"

/-- Asks a question and reads a line; whether it is a yes. -/
def agrees (s : State) (question : String) : State × Bool :=
  let s := { s.write 2 (pack question) with refused := s.refused }
  let line := (s.waiting 0).takeWhile (· ≠ 10)
  let rest := (s.waiting 0).drop (line.length + 1)
  (s.leaveWaiting 0 rest, line.head? = some 121 || line.head? = some 89)

/-- The last name of a path, without the slashes after it. -/
def lastName (name : String) : String :=
  let cs := (name.toList.reverse.dropWhile (· = '/')).takeWhile (· ≠ '/')
  String.ofList cs.reverse

def removeOne (p : Parsed) (s : State) (name : String) : State :=
  let deep := p.has "r"
  let failed (e : FileError) : State := failedTo s "rm" "cannot remove" name e
  let removed (s : State) (paths : List (String × Bool)) : State :=
    if !p.has "v" then s
    else s.say (String.join (paths.map fun (path, isDirectory) =>
      "removed " ++ (if isDirectory then "directory " else "") ++ quotedName path ++ "\n"))
  if deep && !name.isEmpty && name.toList.all (· = '/') then
    (s.complain ("rm: it is dangerous to operate recursively on " ++ quotedName name ++
      "\nrm: use --no-preserve-root to override this failsafe")).finish 1
  else if deep && (lastName name = "." || lastName name = "..") then
    (s.complain ("rm: refusing to remove '.' or '..' directory: skipping " ++
      quotedName name)).finish 1
  else match s.disk.lookHere (pathOf name) with
    | .error e =>
      if p.has "f" && (e = .notFound || e = .notADirectory) then s else failed e
    | .ok entry =>
      let (s, agreed) :=
        if p.last? ["i", "f"] = some "i" then
          agrees s ("rm: remove " ++ kindWords s.disk entry ++ " " ++ quotedName name ++ "? ")
        else (s, true)
      if !agreed then s
      else match entry with
        | .directory entries =>
          if !deep && !p.has "d" then failed .isADirectory
          else if !deep && !entries.isEmpty then failed .notEmpty
          else match s.disk.removeTree (pathOf name) with
            | (.ok (), disk) => removed { s with disk := disk } (pathsBelow name entry)
            | (.error e, disk) => failedTo { s with disk := disk } "rm" "cannot remove" name e
        | _ =>
          match s.disk.removeFile (pathOf name) with
          | .ok disk => removed { s with disk := disk } [(name, false)]
          | .error e => failed e

def rm : State → List String → State :=
  withOptions "rm" (options "dfiIrRv" [("dir", "d"), ("force", "f"), ("interactive?", "i"),
    ("recursive", "r"), ("verbose", "v"), ("one-file-system", "one"),
    ("preserve-root?", "root"), ("no-preserve-root", "root")]) 1 fun s p =>
    let p := { p with options := p.options.map fun (key, value) =>
      (if key = "R" then "r" else key, value) }
    if p.operands.isEmpty then
      if p.has "f" then s else misused s "rm" "missing operand" 1
    else
      let many := 3 < p.operands.length || p.has "r"
      let (s, agreed) :=
        if p.last? ["i", "I", "f"] = some "I" && many then
          agrees s ("rm: remove " ++ Decimal.natural p.operands.length ++ " argument" ++
            (if p.operands.length = 1 then "" else "s") ++
            (if p.has "r" then " recursively" else "") ++ "? ")
        else (s, true)
      if agreed then p.operands.foldl (removeOne p) s else s

/-! ### Times and sizes -/

/-- A file with another time. -/
def setTime (d : Disk) (ms : Int) : Entry → Disk
  | .file id => d.setContent id { d.content id with modified := ms }
  | _ => d

/-- A file written to now, or at another time; it is made if it is not there. -/
def touchOne (create : Bool) (ms : Int) (s : State) (name : String) : State :=
  match s.disk.look (pathOf name) with
  | .ok entry => { s with disk := setTime s.disk ms entry }
  | .error e =>
    let slash := name.toList.getLast? = some '/'
    if slash && (e = .notFound || e = .notADirectory) then
      if create then failedTo s "touch" "setting times of" name e else s
    else if !create && e = .notFound then s
    else match s.disk.openFile (pathOf name) with
      | .ok (disk, id) => { s with disk := setTime disk ms (.file id) }
      | .error e => failedTo s "touch" "cannot touch" name e

def touch : State → List String → State :=
  withOptions "touch" (options "acd:fhmr:t:" [("no-create", "c"), ("date=", "d"),
    ("no-dereference", "h"), ("reference=", "r"), ("time=", "time")]) 1 fun s p =>
    let invalid (text : String) : State :=
      (s.complain ("touch: invalid date format " ++ quotedName text)).finish 1
    let create := !p.has "c" && !p.has "h"
    let all (ms : Int) : State :=
      if p.operands.isEmpty then misused s "touch" "missing file operand" 1
      else p.operands.foldl (touchOne create ms) s
    let start : Except State Int := match p.value? "r" with
      | none => .ok s.disk.now
      | some name =>
        match s.disk.look (pathOf name) with
        | .ok entry => .ok (s.disk.modifiedOf entry)
        | .error e => .error (failedTo s "touch" "failed to get attributes of" name e)
    match start, p.value? "t", p.value? "d" with
    | .error s, _, _ => s
    | .ok now, some text, _ =>
      match stamp? now (zone s) text with
      | some ms => all ms
      | none => invalid text
    | .ok now, none, some text =>
      match instant? now (zone s) text with
      | some ms => all ms
      | none => invalid text
    | .ok now, none, none => all now

/-- The size that a text asks for, from the present one. -/
def sizeAfter? (text : String) (old : Nat) : Option Nat :=
  let cs := text.toList
  let of (cs : List Char) (f : Nat → Nat) : Option Nat := (count? cs).map f
  match cs with
  | '+' :: rest => of rest (old + ·)
  | '-' :: rest => of rest (old - ·)
  | '<' :: rest => of rest (min old ·)
  | '>' :: rest => of rest (max old ·)
  | '/' :: rest => of rest fun n => if n = 0 then old else old / n * n
  | '%' :: rest => of rest fun n => if n = 0 then old else (old + (n - 1)) / n * n
  | rest => of rest fun n => n

def truncate : State → List String → State :=
  withOptions "truncate" (options "cor:s:" [("no-create", "c"), ("io-blocks", "o"),
    ("reference=", "r"), ("size=", "s")]) 1 fun s p =>
    let reference := (p.value? "r").bind fun name =>
      match s.disk.read (pathOf name) with
      | .ok bytes => some bytes.length
      | .error _ => none
    if !p.has "s" && !p.has "r" then
      misused s "truncate" "you must specify either '--size' or '--reference'" 1
    else
      let text := (p.value? "s").getD "+0"
      if (sizeAfter? text 0).isNone then
        (s.complain ("truncate: Invalid number: " ++ quotedName text)).finish 1
      else if p.operands.isEmpty then misused s "truncate" "missing file operand" 1
      else p.operands.foldl (fun s name =>
        if p.has "c" && !s.disk.isThere (pathOf name) then s
        else match s.disk.openFile (pathOf name) with
          | .error e =>
            (s.complain ("truncate: cannot open " ++ quotedName name ++ " for writing: " ++
              e.words)).finish 1
          | .ok (disk, id) =>
            let old := (disk.content id).bytes
            let size := (sizeAfter? text (reference.getD old.length)).getD 0
            let bytes := old.take size ++ List.replicate (size - old.length) 0
            { s with disk := disk.refill id bytes }) s

/-! ### Names that are not taken -/

/-- Letters and digits that stand for a number, the last one first. -/
def nameChars : Nat → Nat → List Char
  | 0, _ => []
  | length + 1, n =>
    let all := "abcdefghijklmnopqrstuvwxyzABCDEFGHIJKLMNOPQRSTUVWXYZ0123456789".toList
    all[n % 62]?.getD 'a' :: nameChars length (n / 62)

/-- The template with its last marks replaced by a number. -/
def filledTemplate (template : List Char) (suffix : String) (n : Nat) : String :=
  let marks := (template.reverse.takeWhile (· = 'X')).length
  String.ofList (template.take (template.length - marks) ++ nameChars marks n ++ suffix.toList)

/-- A number that spreads names over all letters. -/
def scattered (n : Nat) : Nat :=
  (n + 1) * 2862933555777941757 % 9223372036854775808 / 7

def mktemp : State → List String → State :=
  withOptions "mktemp" (options "dp:qtuV" [("directory", "d"), ("dry-run", "u"), ("quiet", "q"),
    ("suffix=", "suffix"), ("tmpdir?", "p")]) 1 fun s p =>
    let usual := p.operands.isEmpty
    let template := (p.operands.head?.getD "tmp.XXXXXXXXXX").toList
    let marked := (template.reverse.dropWhile (· ≠ 'X')).reverse
    let suffix := String.ofList (template.drop marked.length) ++ (p.value? "suffix").getD ""
    let directory := ((p.value? "p").or (s.stored? "TMPDIR")).getD "/tmp"
    let inDirectory := usual || p.has "p" || p.has "t"
    let stem := if inDirectory then directory.toList ++ '/' :: marked else marked
    if (marked.reverse.takeWhile (· = 'X')).length < 3 then
      (s.complain ("mktemp: too few X's in template " ++
        quotedName (String.ofList template))).finish 1
    else
      let names := (List.range 1000).map fun n => filledTemplate stem suffix (scattered n)
      let name := (names.find? fun name => !s.disk.isThere (pathOf name)).getD ""
      let made : Except FileError Disk :=
        if p.has "u" then .ok s.disk
        else if p.has "d" then s.disk.createDirectory (pathOf name)
        else (s.disk.openFile (pathOf name)).map fun (d, id) =>
          d.setContent id (.new 0o600 d.now)
      match made with
      | .ok disk => { s with disk := disk }.say (name ++ "\n")
      | .error e =>
        if p.has "q" then s.finish 1
        else
          let what := if p.has "d" then "directory" else "file"
          (s.complain ("mktemp: failed to create " ++ what ++ " via template " ++
            quotedName (String.ofList stem ++ suffix) ++ ": " ++ e.words)).finish 1

end Montage.Utility
