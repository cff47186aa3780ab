import Montage.Utility.Tree

/-!
Commands that copy and move files and give them further names.
-/

namespace Montage.Utility

open Shell

/-! ### Sources and targets -/

/-- A name in a directory, as one path. -/
def within (directory name : String) : String :=
  if directory.toList.getLast? = some '/' then directory ++ name else directory ++ "/" ++ name

/-- The sources with the target of each, or the state after a complaint. -/
def carriers (s : State) (command : String) (p : Parsed) :
    Except State (List (String × String)) :=
  let missing (after : Option String) : State :=
    match after with
    | none => misused s command "missing file operand" 1
    | some name =>
      misused s command ("missing destination file operand after " ++ quotedName name) 1
  let inside (directory : String) (names : List String) : List (String × String) :=
    names.map fun name => (name, within directory (lastName name))
  let notThere (what name : String) : State :=
    let e := match s.disk.look (pathOf name) with
      | .ok _ => FileError.notADirectory
      | .error e => e
    (s.complain (command ++ ": " ++ what ++ " " ++ quotedName name ++ ": " ++ e.words)).finish 1
  match p.value? "t", p.operands with
  | some directory, names =>
    if !s.disk.isDirectory (pathOf directory) then .error (notThere "target directory" directory)
    else if names.isEmpty then .error (missing none)
    else .ok (inside directory names)
  | none, [] => .error (missing none)
  | none, [name] => .error (missing (some name))
  | none, first :: second :: rest =>
    let target := (rest.getLast?).getD second
    if p.has "T" then
      match rest with
      | [] => .ok [(first, second)]
      | extra :: _ => .error (misused s command ("extra operand " ++ quotedName extra) 1)
    else if s.disk.isDirectory (pathOf target) then
      .ok (inside target (first :: second :: rest).dropLast)
    else if rest.isEmpty then .ok [(first, second)]
    else .error (notThere "target" target)

/-- A complaint of a command. -/
def refuse (s : State) (command text : String) : State :=
  (s.complain (command ++ ": " ++ text)).finish 1

/-- What was done with a source and its target, if that is asked for. -/
def told (p : Parsed) (what source mark target : String) (s : State) : State :=
  if p.has "v" then
    s.say (what ++ quotedName source ++ " " ++ mark ++ " " ++ quotedName target ++ "\n")
  else s

/-- Whether two paths are names of one file. -/
def isSame (d : Disk) (source target : String) : Bool :=
  match d.look (pathOf source), d.look (pathOf target) with
  | .ok (.file a), .ok (.file b) => a = b
  | .ok (.directory _), .ok (.directory _) =>
    match d.reach (pathOf source), d.reach (pathOf target) with
    | .ok x, .ok y => x.place = y.place
    | _, _ => false
  | _, _ => false

/-- Whether an existing target stays as it is: nothing may be written over, it is newer, or a
question is answered by no. -/
def keeps (p : Parsed) (command verb : String) (s : State) (source target : String) :
    State × Bool :=
  match s.disk.look (pathOf target) with
  | .error _ => (s, false)
  | .ok entry =>
    let newer := match s.disk.lookHere (pathOf source) with
      | .ok source => s.disk.modifiedOf source ≤ s.disk.modifiedOf entry
      | .error _ => false
    match p.last? ["n", "i", "f"] with
    | some "n" => (s, true)
    | some "i" =>
      let (s, agreed) := agrees s (command ++ ": " ++ verb ++ " " ++ quotedName target ++ "? ")
      (if agreed then s else s.finish 1, !agreed)
    | _ => (s, p.has "u" && newer)

/-! ### Copies -/

/-- What a file holds put into another one, which is made if it is not there. -/
def copyContent (d : Disk) (id : Nat) (exact : Bool) (target : String) :
    Except FileError Disk := do
  let held := d.content id
  let isNew := !d.isThere (pathOf target)
  let (d, copied) ← d.openFile (pathOf target)
  let d := d.refill copied (State.bytesFrom held)
  let content := d.content copied
  let content := if isNew then
      { content with
        mode := held.mode - (held.mode &&& (d.mask ||| 0o7000))
        kind := match held.kind with
          | .program name => .program name
          | _ => content.kind }
    else content
  .ok (d.setContent copied (if exact then
    { content with mode := held.mode, modified := held.modified } else content))

/-- How files are copied. -/
structure CopyStyle where
  deep : Bool
  /-- Links at the top are copied as such. -/
  linksAbove : Bool
  /-- Links below are copied as such. -/
  linksBelow : Bool
  exact : Bool
  hard : Bool
  soft : Bool

/-- One file copied to a path. -/
def copyFile (style : CopyStyle) (p : Parsed) (s : State) (id : Nat) (source target : String) :
    State :=
  let failed (e : FileError) : State :=
    let what := if style.soft then "symbolic link" else if style.hard then "hard link"
      else "regular file"
    let e := if e = .isADirectory then .notADirectory else e
    failedTo s "cp" ("cannot create " ++ what) target e
  if isSame s.disk source target then
    if style.hard then s
    else refuse s "cp" (quotedName source ++ " and " ++ quotedName target ++ " are the same file")
  else if s.disk.isDirectory (pathOf target) then
    refuse s "cp" ("cannot overwrite directory " ++ quotedName target ++ " with non-directory")
  else
    let (s, kept) := keeps p "cp" "overwrite" s source target
    let dangling := (s.disk.readLink (pathOf target)).isOk && !s.disk.isThere (pathOf target)
    if kept then s
    else if dangling then
      refuse s "cp" ("not writing through dangling symlink " ++ quotedName target)
    else
      let clear (d : Disk) : Disk :=
        if p.has "f" then (d.removeFile (pathOf target)).toOption.getD d else d
      let made := if style.soft then (clear s.disk).linkTo (pathOf source) (pathOf target)
        else if style.hard then (clear s.disk).link (pathOf source) (pathOf target)
        else copyContent s.disk id style.exact target
      match made with
      | .ok disk => told p "" source "->" target { s with disk := disk }
      | .error e => failed e

/-- An entry copied to a path, a directory with all that is in it. -/
def copyEntry (style : CopyStyle) (p : Parsed) : Nat → Bool → State → String → String → State
  | 0, _, s, _, target => failedTo s "cp" "cannot create regular file" target .nameTooLong
  | depth + 1, top, s, source, target =>
    let asLink := if top then style.linksAbove else style.linksBelow
    let found := if asLink then s.disk.lookHere (pathOf source) else s.disk.look (pathOf source)
    match found with
    | .error e => failedTo s "cp" "cannot stat" source e
    | .ok (.link meaning) =>
      let d := (s.disk.removeFile (pathOf target)).toOption.getD s.disk
      match d.linkTo meaning (pathOf target) with
      | .ok disk => told p "" source "->" target { s with disk := disk }
      | .error e => failedTo s "cp" "cannot create symbolic link" target e
    | .ok (.file id) => copyFile style p s id source target
    | .ok (.directory entries) =>
      let isInside := match s.disk.reach (pathOf source), s.disk.reach (pathOf target) with
        | .ok x, .ok y => x.place.isPrefixOf y.place
        | _, _ => false
      if !style.deep then
        refuse s "cp" ("-r not specified; omitting directory " ++ quotedName source)
      else if isInside then
        refuse s "cp" ("cannot copy a directory, " ++ quotedName source ++ ", into itself, " ++
          quotedName target)
      else
        let made : Except State State :=
          if s.disk.isDirectory (pathOf target) then .ok s
          else if s.disk.isThere (pathOf target) then
            .error (refuse s "cp" ("cannot overwrite non-directory " ++ quotedName target ++
              " with directory " ++ quotedName source))
          else match s.disk.createDirectory (pathOf target) with
            | .ok disk => .ok (told p "" source "->" target { s with disk := disk })
            | .error e => .error (failedTo s "cp" "cannot create directory" target e)
        match made with
        | .error s => s
        | .ok s =>
          let names := (entries.map fun (name, _) => inBytes name).mergeSort fun a b =>
            decide (a ≤ b)
          names.foldl (fun s name =>
            copyEntry style p depth false s (within source name) (within target name)) s

/-- How deep directories are copied. -/
def copyDepth : Nat :=
  64

/-- A target that has all names of its source below a directory; what leads there is made. -/
def withParents (s : State) (p : Parsed) (source target : String) : State × String :=
  if !p.has "parents" then (s, target)
  else
    let directory := (p.value? "t").getD (p.operands.getLast?.getD ".")
    let target := within directory source
    let above := (parentTexts target.length target.toList).map String.ofList
    let (_, disk) := s.disk.createDirectories (pathOf (above.head?.getD ""))
    ({ s with disk := disk }, target)

def cp : State → List String → State :=
  withOptions "cp" (options "abdfHilLnprst:uvxPRS:TZ" [("archive", "a"), ("backup?", "b"),
    ("dereference", "L"), ("force", "f"), ("interactive", "i"), ("link", "l"), ("no-clobber", "n"),
    ("no-dereference", "P"), ("no-target-directory", "T"), ("one-file-system", "x"),
    ("parents", "parents"), ("preserve?", "preserve"), ("no-preserve=", "no"), ("recursive", "r"),
    ("remove-destination", "f"), ("suffix=", "S"), ("symbolic-link", "s"),
    ("target-directory=", "t"), ("update?", "u"), ("verbose", "v"), ("sparse=", "sparse"),
    ("reflink?", "reflink"), ("attributes-only", "attributes")]) 1 fun s p =>
    match carriers s "cp" p with
    | .error s => s
    | .ok pairs =>
      let deep := p.has "r" || p.has "R" || p.has "a"
      let links := p.last? ["P", "d", "a", "L"]
      let style : CopyStyle :=
        { deep := deep
          linksAbove := if links = some "L" || p.has "H" then false else links.isSome || deep
          linksBelow := links ≠ some "L"
          exact := p.has "p" || p.has "a" || p.has "preserve"
          hard := p.has "l"
          soft := p.has "s" }
      pairs.foldl (fun s (source, target) =>
        let (s, target) := withParents s p source target
        copyEntry style p copyDepth true s source target) s

/-! ### Moves -/

def moveOne (p : Parsed) (s : State) (source target : String) : State :=
  let failed (e : FileError) : State :=
    refuse s "mv" ("cannot move " ++ quotedName source ++ " to " ++ quotedName target ++ ": " ++
      e.words)
  let onto := s.disk.lookHere (pathOf target)
  match s.disk.lookHere (pathOf source), onto with
  | .error e, _ => failedTo s "mv" "cannot stat" source e
  | .ok _, .error .notADirectory =>
    if target.toList.getLast? = some '/' then failedTo s "mv" "cannot stat" target .notADirectory
    else failed .notADirectory
  | .ok entry, onto =>
    let overDirectory := match onto with
      | .ok entry => entry.isDirectory
      | .error _ => false
    if isSame s.disk source target then
      refuse s "mv" (quotedName source ++ " and " ++ quotedName target ++ " are the same file")
    else if !entry.isDirectory && overDirectory then
      refuse s "mv" ("cannot overwrite directory " ++ quotedName target ++ " with non-directory")
    else if entry.isDirectory && onto.isOk && !overDirectory then
      refuse s "mv" ("cannot overwrite non-directory " ++ quotedName target ++ " with directory " ++
        quotedName source)
    else if !entry.isDirectory && target.toList.getLast? = some '/' then failed .notADirectory
    else
      let (s, kept) := keeps p "mv" "overwrite" s source target
      if kept then s
      else match s.disk.rename (pathOf source) (pathOf target) with
        | .ok disk => told p "renamed " source "->" target { s with disk := disk }
        | .error .invalid =>
          refuse s "mv" ("cannot move " ++ quotedName source ++ " to a subdirectory of itself, " ++
            quotedName target)
        | .error .notEmpty => failedTo s "mv" "cannot overwrite" target .notEmpty
        | .error e => failed e

def mv : State → List String → State :=
  withOptions "mv" (options "bfint:uvS:TZ" [("backup?", "b"), ("force", "f"), ("interactive", "i"),
    ("no-clobber", "n"), ("no-target-directory", "T"), ("suffix=", "S"),
    ("target-directory=", "t"), ("update?", "u"), ("verbose", "v"),
    ("strip-trailing-slashes", "strip")]) 1 fun s p =>
    match carriers s "mv" p with
    | .error s => s
    | .ok pairs => pairs.foldl (fun s (source, target) => moveOne p s source target) s

/-! ### Links -/

/-- A path from one directory to another place. -/
def pathBetween (start stop : Place) : String :=
  let common := ((start.zip stop).takeWhile fun (a, b) => a = b).length
  let names := (start.drop common).map (fun _ => "..") ++ stop.drop common
  if names.isEmpty then "." else inBytes ("/".intercalate names)

/-- What a symbolic link is to say so that it leads from where it is to the source. -/
def linkText (d : Disk) (p : Parsed) (source target : String) : String :=
  if !p.has "r" then source
  else match d.reach (pathOf source), d.reach (pathOf target) with
    | .ok x, .ok y => pathBetween y.place.dropLast x.place
    | _, _ => source

def linkOne (p : Parsed) (s : State) (source target : String) : State :=
  let soft := p.has "s"
  let what := if soft then "symbolic link" else "hard link"
  let failed (e : FileError) : State :=
    let onto := if e = .alreadyExists || target.isEmpty then ""
      else (if soft then " -> " else " => ") ++ quotedName source
    refuse s "ln" ("failed to create " ++ what ++ " " ++ quotedName target ++ onto ++ ": " ++
      e.words)
  let held := if p.has "L" then s.disk.look (pathOf source)
    else s.disk.lookHere (pathOf source)
  match if soft then .ok (Entry.directory []) else held with
  | .error e => refuse s "ln" ("failed to access " ++ quotedName source ++ ": " ++ e.words)
  | .ok entry =>
    if !soft && entry.isDirectory then
      refuse s "ln" (shownName source ++ ": hard link not allowed for directory")
    else if !soft && (p.has "f" || p.has "i") && isSame s.disk source target then
      refuse s "ln" (quotedName source ++ " and " ++ quotedName target ++ " are the same file")
    else
      let (s, declined) :=
        if p.last? ["f", "i"] = some "i" && (s.disk.lookHere (pathOf target)).isOk then
          let (s, agreed) := agrees s ("ln: replace " ++ quotedName target ++ "? ")
          (if agreed then s else s.finish 1, !agreed)
        else (s, false)
      if declined then s
      else
        let replaces := p.has "f" || p.has "i"
        let d := if replaces then (s.disk.removeFile (pathOf target)).toOption.getD s.disk
          else s.disk
        let made := if soft then
            d.linkTo (pathOf (linkText s.disk p source target)) (pathOf target)
          else match s.disk.locate (pathOf target) with
            | .ok (.name parent name none false) => .ok (d.set (parent ++ [name]) (some entry))
            | .error e => .error e
            | _ => if replaces then d.link (pathOf source) (pathOf target)
              else .error .alreadyExists
        match made with
        | .ok disk => told p "" target (if soft then "->" else "=>") source { s with disk := disk }
        | .error e => failed e

def ln : State → List String → State :=
  withOptions "ln" (options "bdfFiLnPrst:vS:T" [("backup?", "b"), ("directory", "d"),
    ("force", "f"), ("interactive", "i"), ("logical", "L"), ("no-dereference", "n"),
    ("physical", "P"), ("relative", "r"), ("symbolic", "s"), ("suffix=", "S"),
    ("target-directory=", "t"), ("no-target-directory", "T"), ("verbose", "v")]) 1 fun s p =>
    match p.value? "t", p.operands with
    | none, [name] => linkOne p s name (within "." (lastName name))
    | none, [source, target] =>
      -- A link to a directory counts as a file of its own where that is asked for.
      if p.has "n" && (s.disk.readLink (pathOf target)).isOk then linkOne p s source target
      else all s p
    | _, _ => all s p
where
  all (s : State) (p : Parsed) : State :=
    match carriers s "ln" p with
    | .error s => s
    | .ok pairs => pairs.foldl (fun s (source, target) => linkOne p s source target) s

/-- A second name for a file, without any options. -/
def link (s : State) (args : List String) : State :=
  match if args.head? = some "--" then args.drop 1 else args with
  | [] => misused s "link" "missing operand" 1
  | [name] => misused s "link" ("missing operand after " ++ quotedName name) 1
  | [source, target] =>
    match s.disk.link (pathOf source) (pathOf target) with
    | .ok disk => { s with disk := disk }
    | .error e =>
      refuse s "link" ("cannot create link " ++ quotedName target ++ " to " ++ quotedName source ++
        ": " ++ e.words)
  | _ :: _ :: extra :: _ => misused s "link" ("extra operand " ++ quotedName extra) 1

/-- A name of a file taken away, without any options. -/
def unlink (s : State) (args : List String) : State :=
  match if args.head? = some "--" then args.drop 1 else args with
  | [] => misused s "unlink" "missing operand" 1
  | [name] => settleDisk s "unlink" "cannot unlink" name (s.disk.removeFile (pathOf name))
  | _ :: extra :: _ => misused s "unlink" ("extra operand " ++ quotedName extra) 1

/-- Files copied to where they are to be used, with the mode that is asked for. -/
def install : State → List String → State :=
  withOptions "install" (options "bcCdDg:m:o:pst:TvS:" [("directory", "d"), ("group=", "g"),
    ("mode=", "m"), ("owner=", "o"), ("target-directory=", "t"), ("no-target-directory", "T"),
    ("verbose", "v"), ("preserve-timestamps", "p"), ("strip", "s")]) 1 fun s p =>
    if p.has "d" then
      if p.operands.isEmpty then misused s "install" "missing file operand" 1
      else p.operands.foldl (makePath (p.has "v")) s
    else
      let lead := match p.operands with
        | [_, target] =>
          (parentTexts target.length target.toList).head?.map String.ofList
        | _ => none
      let s := match if p.has "D" then lead else none with
        | some directory =>
          { s with disk := (s.disk.createDirectories (pathOf directory)).2 }
        | none => s
      let mode := (Mode.after? ((p.value? "m").getD "755").toList false 0 0).getD 0o755
      match carriers s "install" p with
      | .error s => s
      | .ok pairs => pairs.foldl (fun s (source, target) =>
        match s.disk.look (pathOf source) with
        | .error e => failedTo s "install" "cannot stat" source e
        | .ok (.file id) =>
          match copyContent s.disk id false target with
          | .ok disk =>
            let disk := match disk.look (pathOf target) with
              | .ok entry => disk.setMode mode entry
              | .error _ => disk
            told p "" source "->" target { s with disk := disk }
          | .error e => failedTo s "install" "cannot create regular file" target e
        | .ok _ => refuse s "install" ("omitting directory " ++ quotedName source)) s

end Montage.Utility
