import Montage.Filter.Graph
import Montage.Text.Quoted
import Montage.Timeline.Basic

/-!
Render plans: what the encoder reads, the filter graph over it, and what it writes.
-/

namespace Montage

/-- The frame of the output, and whether background music is mixed in. -/
structure PlanOptions where
  width : Nat
  height : Nat
  mixMusic : Bool
  deriving DecidableEq

def PlanOptions.default : PlanOptions :=
  ⟨1920, 1080, true⟩

/-- One input of the encoder. -/
inductive PlanInput (α : Type)
  | source
  /-- A still image of the text overlay with the given number, shown for `seconds`. -/
  | textImage (overlay : Nat) (words : String) (position : TextPosition) (seconds : α)
  /-- A track repeated for the whole output. -/
  | music (keywords : String) (volume : α)
  deriving DecidableEq

namespace PlanInput

variable {α : Type}

def isLooped : PlanInput α → Bool
  | source => false
  | _ => true

def isTextImage : PlanInput α → Bool
  | textImage .. => true
  | _ => false

def isMusic : PlanInput α → Bool
  | music .. => true
  | _ => false

end PlanInput

structure RenderPlan (α : Type) where
  inputs : List (PlanInput α)
  description : String
  outputs : List String
  /-- Where the output ends, when a looped input could run on. -/
  cap : Option α
  total : α
  deriving DecidableEq

namespace RenderPlan

variable {α : Type}

/-- The numbers of the inputs that are text images. -/
def textImages (plan : RenderPlan α) : List Nat :=
  (plan.inputs.zipIdx.filter (·.1.isTextImage)).map (·.2)

/-- The number of the first input that is music. -/
def musicInput? (plan : RenderPlan α) : Option Nat :=
  plan.inputs.findIdx? PlanInput.isMusic

end RenderPlan

/-- Why a timeline has no plan. -/
inductive PlanError
  | nothingToRender
  | cycle (stage : String)
  | danglingPads (pads : List String)
  /-- A crop has a width or a height that is not a number. -/
  | undefinedCrop
  deriving DecidableEq

def PlanError.message : PlanError → String
  | nothingToRender => "nothing to render: the timeline has no clips"
  | cycle stage => "filter graph contains a cycle at stage " ++ stage
  | danglingPads pads => "filter graph leaves pads " ++ Text.quotedList pads ++ " unmapped"
  | undefinedCrop => "a crop has no defined size"

/-- The written graph, if its stages can be put in an order. -/
def Graph.describe {φ : Type} (print : φ → String) (g : Graph φ) : Except PlanError String :=
  if g.isAcyclic then .ok (g.render print)
  else .error (.cycle ((g.stages.head?.map (Stage.render print)).getD ""))

end Montage
