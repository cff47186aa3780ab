import Montage.Encoder.Basic

/-!
Runs of an export: a disk, and the log of all uses of the encoder.
-/

namespace Montage

/-- A use of the encoder and the disk as it was before. -/
structure CallRecord where
  call : Call
  before : Disk

structure World where
  disk : Disk
  /-- The calls so far, in order. -/
  calls : List CallRecord

/-- A step that may fail. What it did to the world stays done. -/
abbrev Run (α : Type) := World → Except ExportError α × World

namespace Run

variable {α β : Type}

def pure (a : α) : Run α :=
  fun w => (.ok a, w)

def fail (e : ExportError) : Run α :=
  fun w => (.error e, w)

def bind (step : Run α) (next : α → Run β) : Run β :=
  fun w =>
    match step w with
    | (.ok a, w) => next a w
    | (.error e, w) => (.error e, w)

instance : Monad Run where
  pure := pure
  bind := bind

/-- The result of a step as a value. -/
def attempt (step : Run α) : Run (Except ExportError α) :=
  fun w => match step w with
    | (result, w) => (.ok result, w)

/-- A first step, and a last one that is taken whether or not the first fails. -/
def finally_ (step : Run α) (last : World → World) : Run α :=
  fun w => match step w with
    | (result, w) => (result, last w)

def ofExcept : Except ExportError α → Run α
  | .ok a => pure a
  | .error e => fail e

/-- A change of the disk. -/
def change (operation : Disk → Except FileError Disk) : Run Unit :=
  fun w => match operation w.disk with
    | .ok disk => (.ok (), { w with disk := disk })
    | .error e => (.error (.file e), w)

/-- A change of the disk that may have been made in part when it fails. -/
def changeInSteps (operation : Disk → Except FileError Unit × Disk) : Run Unit :=
  fun w => match operation w.disk with
    | (.ok (), disk) => (.ok (), { w with disk := disk })
    | (.error e, disk) => (.error (.file e), { w with disk := disk })

/-- A change of the disk, or else another one. -/
def changeOr (first second : Disk → Except FileError Disk) : Run Unit :=
  change fun disk => match first disk with
    | .ok disk => .ok disk
    | .error _ => second disk

/-- A use of the encoder, put on record. -/
def record (call : Call) (operation : Disk → Except ExportError α × Disk) : Run α :=
  fun w => match operation w.disk with
    | (result, disk) => (result, ⟨disk, w.calls ++ [⟨call, w.disk⟩]⟩)

end Run

namespace Encoder

def runFrameSize (e : Encoder) (path : Path) : Run (Nat × Nat) :=
  Run.record (.frameSize path) (e.frameSize path)

def runDuration (e : Encoder) (path : Path) : Run Binary64 :=
  Run.record (.duration path) (e.duration path)

def runTextImage (e : Encoder) (job : TextImageJob) (output : Path) : Run Unit :=
  Run.record (.textImage job output) (e.textImage job output)

def runEncode (e : Encoder) (job : EncodeJob) : Run EncodeOutcome :=
  Run.record (.encode job) (e.encode job)

end Encoder

end Montage

/-!
Workspaces: a directory for the files of one request, gone when the request is done.
-/

namespace Montage

structure Workspace where
  directory : Path
  deriving DecidableEq

namespace Workspace

def directoryOf (scratch : Path) (request : String) : Path :=
  scratch.join ⟨"synoid-" ++ request⟩

/-- A new directory. One that is there already belongs to another request. -/
def create (scratch : Path) (request : String) : Run Workspace := do
  let directory := directoryOf scratch request
  Run.changeInSteps (·.createDirectories scratch)
  fun w => match w.disk.createDirectory directory with
    | .ok disk => (.ok ⟨directory⟩, { w with disk := disk })
    | .error .alreadyExists => (.error (.workspaceInUse directory), w)
    | .error e => (.error (.file e), w)

def file (workspace : Workspace) (name : String) : Path :=
  workspace.directory.join ⟨name⟩

/-- Removes the directory with all that is in it, if it is still there. -/
def remove (workspace : Workspace) (w : World) : World :=
  { w with disk := (w.disk.removeTree workspace.directory).2 }

end Workspace

end Montage
