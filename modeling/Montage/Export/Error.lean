import Montage.Disk.Basic
import Montage.Plan.Basic

/-!
Why an export fails, and what is said about it.
-/

namespace Montage

inductive ExportError
  | nothingToRender
  | encoderNotFound (tool : String)
  /-- The exit code is none when a signal ended the encoder. -/
  | encoderFailed (exitCode : Option Int) (tail : String)
  | overlayFailed (index : Nat) (reason : String)
  | probe (path : Path) (reason : String)
  | music (reason : String)
  | plan (cause : PlanError)
  | settings (reason : String)
  | workspaceInUse (directory : Path)
  | file (cause : FileError)
  deriving DecidableEq

namespace ExportError

def describeExit : Option Int → String
  | some code => "code " ++ Decimal.integer code
  | none => "no exit code (killed by signal)"

def message : ExportError → String
  | nothingToRender => PlanError.message .nothingToRender
  | encoderNotFound tool => "encoder binary not found: " ++ tool
  | encoderFailed code tail => "encoder exited with " ++ describeExit code ++ ": " ++ tail
  | overlayFailed index reason =>
    "failed to render text overlay " ++ Decimal.natural index ++ ": " ++ reason
  | probe path reason => "probe failed for " ++ Text.quoted path.text ++ ": " ++ reason
  | music reason => "background music unavailable: " ++ reason
  | plan cause => "invalid plan: " ++ cause.message
  | settings reason => "config error: " ++ reason
  | workspaceInUse directory =>
    "IO error: workspace " ++ Text.quoted directory.text ++ " already in use"
  | file cause => "IO error: " ++ cause.message

/-- A timeline without clips is the same failure at either stage. -/
def ofPlan : PlanError → ExportError
  | .nothingToRender => nothingToRender
  | cause => plan cause

/-- The exit code of a failed encode, if that is what this is. -/
def exitCode : ExportError → Option Int
  | encoderFailed code _ => code
  | _ => none

end ExportError

end Montage
