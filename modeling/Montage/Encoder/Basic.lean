import Montage.Disk.Change
import Montage.Disk.Path
import Montage.Edit.Basic
import Montage.Export.Error
import Montage.Number.Floating

/-!
What an encoder is asked to do.
-/

namespace Montage

inductive InputMode
  /-- One image repeated for some seconds. -/
  | still (seconds : Binary64)
  /-- A stream started over until the output ends. -/
  | stream
  deriving DecidableEq

structure ExtraInput where
  path : Path
  mode : InputMode
  deriving DecidableEq

structure EncodeJob where
  source : Path
  description : String
  extraInputs : List ExtraInput
  outputs : List String
  cap : Option Binary64
  output : Path
  deriving DecidableEq

/-- A transparent image of the whole frame with one caption. -/
structure TextImageJob where
  index : Nat
  words : String
  position : TextPosition
  width : Nat
  height : Nat
  deriving DecidableEq

structure EncodeOutcome where
  /-- None when a signal ended the encoder. -/
  exitCode : Option Int
  tail : String
  deriving DecidableEq

def EncodeOutcome.succeeded (o : EncodeOutcome) : Bool :=
  o.exitCode = some 0

end Montage

/-!
Encoders. An encoder may read and write files, so each of its operations takes a disk and leaves
one.
-/

namespace Montage

structure Encoder where
  frameSize : Path → Disk → Except ExportError (Nat × Nat) × Disk
  duration : Path → Disk → Except ExportError Binary64 × Disk
  /-- Writes the image of a caption to a path. -/
  textImage : TextImageJob → Path → Disk → Except ExportError Unit × Disk
  /-- Only an encoder that cannot be run is an error; one that fails has an outcome. -/
  encode : EncodeJob → Disk → Except ExportError EncodeOutcome × Disk

/-- One use of an encoder. -/
inductive Call
  | frameSize (path : Path)
  | duration (path : Path)
  | textImage (job : TextImageJob) (output : Path)
  | encode (job : EncodeJob)
  deriving DecidableEq

end Montage
