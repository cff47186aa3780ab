import Montage.Encoder.Basic

/-!
An encoder that follows a script, for trying out exports without any tool.
-/

namespace Montage

/-- What goes wrong with a scripted encoder. -/
inductive Fault
  | missing (tool : String)
  | unreadable (reason : String)

def Fault.error (path : Path) : Fault → ExportError
  | missing tool => .encoderNotFound tool
  | unreadable reason => .probe path reason

structure Script where
  frame : Except Fault (Nat × Nat)
  length : Except Fault Binary64
  /-- The text overlay whose image cannot be made. -/
  failingOverlay : Option Nat
  encode : Except Fault EncodeOutcome
  /-- Whether the encode leaves an output. -/
  writesOutput : Bool

namespace Encoder

def writing (disk : Disk) (path : Path) (content : String) : Except ExportError Disk :=
  (disk.write path (Text.encode content)).mapError .file

def scripted (script : Script) : Encoder where
  frameSize path disk := (script.frame.mapError (Fault.error path), disk)
  duration path disk := (script.length.mapError (Fault.error path), disk)
  textImage job output disk :=
    if script.failingOverlay = some job.index then
      (.error (.overlayFailed job.index "no font"), disk)
    else match writing disk output "png" with
      | .ok disk => (.ok (), disk)
      | .error e => (.error e, disk)
  encode job disk :=
    match script.encode with
    | .error fault => (.error (fault.error job.output), disk)
    | .ok outcome =>
      if script.writesOutput then
        match writing disk job.output "video" with
        | .ok disk => (.ok outcome, disk)
        | .error e => (.error e, disk)
      else (.ok outcome, disk)

end Encoder

end Montage
