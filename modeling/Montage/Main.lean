import Montage.CommandLine.Run
import Montage.Json.Printer

/-!
The program. It takes the files below the working directory and below the paths among its arguments
as they are, runs the command on them, and writes back what has changed.
-/

namespace Montage.Program

/-- How deep directories are read. -/
def depth : Nat :=
  12

/-- The variables that a command or the tools it runs may ask for. -/
def variableNames : List String :=
  ["SYNOID_FFMPEG", "SYNOID_FFPROBE", "SYNOID_VIDEO_CODEC", "SYNOID_TEMP_DIR", "SYNOID_FONT_FILE",
    "TMPDIR", "PATH", "HOME", "USER"]

def textOf (place : Place) : String :=
  "/" ++ "/".intercalate place

/-- A disk with what is at a place and below it. A file that begins with `#!` can be run. -/
def load (depth : Nat) (place : Place) (disk : Disk) : IO Disk := do
  match depth with
  | 0 => return disk
  | depth + 1 =>
    let path := (← IO.currentDir) / textOf place
    if ← path.isDir then
      let entries ← path.readDir
      let disk := if place.isEmpty then disk else disk.addDirectory place
      entries.toList.foldlM (fun disk entry => load depth (place ++ [entry.fileName]) disk) disk
    else if ← path.pathExists then
      let bytes := (← IO.FS.readBinFile path).toList
      let mode := if bytes.take 2 = Text.encode "#!" then 0o755 else 0o644
      return disk.addFile place { Content.new mode disk.now with bytes := bytes }
    else return disk

/-- What is at a path among the arguments, and below it. -/
def loadPath (disk : Disk) (text : String) : IO Disk := do
  let path : Path := ⟨text⟩
  let start := if path.isAbsolute then [] else disk.workingDirectory
  let named := path.names.foldl (fun (place : Place) name =>
    if name = ".." then place.dropLast else place ++ [name]) start
  match (disk.addParents named).locate path with
  | .ok location =>
    let place := location.place
    if (disk.find? place).isSome then return disk
    else load depth place (disk.addParents place)
  | .error _ => return disk

/-- Writes one place as it is on the disk. -/
def store (disk : Disk) (place : Place) : IO Unit := do
  let path := (← IO.currentDir) / textOf place
  match disk.find? place with
  | some .directory => IO.FS.createDirAll path
  | some (.file content) =>
    if content.kind = .regular then
      IO.FS.writeBinFile path (ByteArray.mk content.bytes.toArray)
  | some (.link _) => pure ()
  | none =>
    if ← path.isDir then IO.FS.removeDirAll path
    else if ← path.pathExists then IO.FS.removeFile path

/-- Writes back all places that have changed, directories before what is in them. -/
def storeAll (before after : Disk) : IO Unit := do
  let places := (before.places ++ after.places).eraseDups
  let changed := places.filter fun place => before.find? place ≠ after.find? place
  for place in changed.mergeSort fun a b => decide (a.length ≤ b.length) do
    store after place

def requestId : IO String := do
  let digits := Nat.toDigits 16 (← IO.rand 0 0xffffff)
  return "export-" ++ Decimal.natural (← IO.monoMsNow) ++ "-" ++
    String.ofList (List.replicate (6 - digits.length) '0' ++ digits)

def say (ending : CommandLine.Ending) : IO Unit := do
  match ending with
  | .done answer => IO.println (answer.pretty 0)
  | .failed message => IO.eprintln ("Error: " ++ message)
  | .crashed => pure ()
  | .help | .wrongUsage =>
    let names := ", ".intercalate (CommandLine.commands.map (·.1))
    IO.eprintln ("usage: synoid-timeline COMMAND [OPTIONS]\ncommands: " ++ names)

/-- Runs the program on the machine's files and answers with its exit code. -/
def start (args : List String) : IO UInt32 := do
  let bindings ← variableNames.filterMapM fun name => do
    return (← IO.getEnv name).map fun value => (name, value)
  let home := (Path.mk (← IO.currentDir).toString).names
  let disk ← load depth home ((Shell.machine home).addParents home)
  let disk ← (args ++ bindings.map (·.2)).foldlM loadPath disk
  let (ending, after) := CommandLine.run ⟨bindings, ← requestId⟩ args disk
  storeAll disk after
  say ending
  return UInt32.ofNat ending.exitCode

end Montage.Program

def main (args : List String) : IO UInt32 :=
  Montage.Program.start args
