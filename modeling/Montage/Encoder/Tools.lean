import Montage.Encoder.Arguments
import Montage.Encoder.Basic
import Montage.Environment.Variables
import Montage.Number.Floating
import Montage.Number.Numeral
import Montage.Shell.Run
import Montage.Text.Classes
import Montage.Text.Lines
import Montage.Text.Utf8

/-!
Reading what tools write.
-/

namespace Montage

/-- How many lines of a complaint are kept. -/
def tailLines : Nat :=
  20

/-- The last lines of a text. -/
def tailOf (bytes : Text.Bytes) : String :=
  let lines := (Text.lines (Text.decodeLenient bytes).toList).map String.ofList
  "\n".intercalate (lines.drop (lines.length - tailLines))

def trimmedText (bytes : Text.Bytes) : String :=
  String.ofList (Text.trim (Text.decodeLenient bytes).toList)

def dropTrailingX (cs : List Char) : List Char :=
  (cs.reverse.dropWhile (· = 'x')).reverse

/-- A positive number of pixels. -/
def side? (cs : List Char) : Option Nat :=
  (Numeral.natural? (pow2 32) cs).filter (0 < ·)

/-- The frame written as `WIDTHxHEIGHT` in the first line; more marks may follow. -/
def frameSize? (text : String) : Option (Nat × Nat) := do
  let line := Text.trim (← (Text.lines text.toList).head?)
  match line.dropWhile (· ≠ 'x') with
  | [] => none
  | _ :: rest =>
    some (← side? (Text.trim (line.takeWhile (· ≠ 'x'))), ← side? (dropTrailingX (Text.trim rest)))

/-- A finite positive number of seconds. -/
def length? (text : String) : Option Binary64 :=
  (Numeral.real? text.toList).filter fun d => Scalar.isFinite d ∧ 0 < d

end Montage

/-!
Starting tools, and what they leave behind.
-/

namespace Montage.Shell

/-- What a process leaves behind. -/
structure Outcome where
  /-- None when a signal ended the process. -/
  exitCode : Option Nat
  output : Text.Bytes
  errors : Text.Bytes

/-- One more than the bytes of the longest argument. -/
def argumentLimit : Nat :=
  131072

/-- A tool run with arguments and variables. A tool without a slash in its name is looked for along
the search path. -/
def start (tool : String) (args : List String) (bindings : List (String × String)) (disk : Disk) :
    Except FileError (Outcome × Disk) := do
  if (tool :: args).any fun text => text.toList.contains (Char.ofNat 0) then .error .nulInArgument
  else if (tool :: args).any fun text => argumentLimit ≤ text.utf8ByteSize then
    .error .argumentsTooLong
  else if tool = "" then .error .notFound
  else
    let bindings := bindings.map fun (name, value) => (inBytes name, inBytes value)
    let s := (State.initial disk bindings).withSearch
    let inner ← State.startNamed run State.startDepth (inBytes tool) (args.map inBytes) s
    let exitCode := if inner.processes.endedBy.isSome then none else some inner.status
    .ok (⟨exitCode, inner.pipeBytes State.outputPipe, inner.pipeBytes State.errorPipe⟩,
      { inner.disk with workingDirectory := disk.workingDirectory, mask := disk.mask })

end Montage.Shell

/-!
The encoder that runs tools.
-/

namespace Montage.Encoder

/-- A tool run to its end. One that is not there is missing; other trouble is trouble with files. -/
def runTool (bindings : Variables) (tool : String) (args : List String) (disk : Disk) :
    Except ExportError Shell.Outcome × Disk :=
  match Shell.start tool args bindings disk with
  | .ok (outcome, disk) => (.ok outcome, disk)
  | .error .notFound => (.error (.encoderNotFound tool), disk)
  | .error e => (.error (.file e), disk)

def exitCode (outcome : Shell.Outcome) : Option Int :=
  outcome.exitCode.map Int.ofNat

/-- What the prober answers about a file, when `read` can make something of it. -/
def probe {α : Type} (bindings : Variables) (settings : Settings) (entries layout what : String)
    (read : String → Option α) (path : Path) (disk : Disk) : Except ExportError α × Disk :=
  match runTool bindings settings.proberTool (probeArguments entries layout path) disk with
  | (.error e, disk) => (.error e, disk)
  | (.ok outcome, disk) =>
    if outcome.exitCode = some 0 then
      let text := trimmedText outcome.output
      match read text with
      | some value => (.ok value, disk)
      | none => (.error (.probe path ("unreadable " ++ what ++ " " ++ Text.quoted text)), disk)
    else (.error (.probe path (tailOf outcome.errors)), disk)

/-- The encoder of some settings, whose tools are given the variables. -/
def tools (bindings : Variables) (settings : Settings) : Encoder where
  frameSize := probe bindings settings "stream=width,height" "csv=s=x:p=0" "frame size" frameSize?
  duration :=
    probe bindings settings "format=duration" "default=noprint_wrappers=1:nokey=1" "duration"
      length?
  textImage job output disk :=
    match runTool bindings settings.encoderTool (job.arguments settings output) disk with
    | (.error e, disk) => (.error e, disk)
    | (.ok outcome, disk) =>
      if outcome.exitCode = some 0 then (.ok (), disk)
      else (.error (.overlayFailed job.index (tailOf outcome.errors)), disk)
  encode job disk :=
    match runTool bindings settings.encoderTool (job.arguments settings) disk with
    | (.error e, disk) => (.error e, disk)
    | (.ok outcome, disk) => (.ok ⟨exitCode outcome, tailOf outcome.errors⟩, disk)

end Montage.Encoder
