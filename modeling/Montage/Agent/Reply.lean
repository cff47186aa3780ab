import Montage.Agent.Action
import Montage.Document.Segment
import Montage.Json.Printer

/-!
What an agent replies about media: segments, events, edits and the steps it took. An entry that
cannot be used is skipped.
-/

namespace Montage

/-- Something that happens in the media. -/
structure Event (α : Type) where
  label : String
  span : Span α
  confidence : α
  deriving DecidableEq

/-- One round of thought, action and observation. -/
structure Step where
  thought : String
  action : String
  observation : String
  deriving DecidableEq

structure Reply (α : Type) where
  features : Features α
  events : List (Event α)
  edits : List (Edit α)
  summary : Option String
  steps : List Step
  deriving DecidableEq

/-- What the agent is told about the media. -/
structure Request (α : Type) where
  duration : α
  existing : List (Segment α)
  deriving DecidableEq

def Reply.mediaDuration {α : Type} (r : Reply α) : α :=
  r.features.duration

namespace Agent

/-- No energy at all reads as none given. -/
def energy (j : Json) : Binary64 :=
  ((numberField? "energy" j).filter fun e => ¬ Scalar.Same e 0).getD 0.5

def segment? (j : Json) : Option (Segment Binary64) := do
  let tags := (j.field? "tags").bind Tags.ofJson?
  some (.new (← span? j) (energy j) (tags.getD Tags.none))

def event? (j : Json) : Option (Event Binary64) := do
  some
    { label := (textField? ["label"] j).getD ""
      span := ← span? j
      confidence := (numberField? "confidence" j).getD 1 }

/-- What was observed: a text as it is, and any other value as JSON. -/
def observation : Option Json → String
  | none | some .null => ""
  | some (.string s) => s
  | some j => j.print

def step (j : Json) : Step :=
  { thought := (textField? ["thought"] j).getD ""
    action := (textField? ["action"] j).getD ""
    observation := observation (j.field? "observation") }

/-- The edits as listed, or else those that the steps call for. -/
def editsOf (payload : Json) (steps : List Step) : List (Edit Binary64) :=
  match (listField "edits" payload).filterMap edit? with
  | [] => steps.filterMap fun s => action? s.action
  | edits => edits

/-- Where the last segment or edit ends. -/
def lastEnd (segments : List (Segment Binary64)) (edits : List (Edit Binary64)) : Binary64 :=
  Scalar.maximum 0 (segments.map (·.span.stop) ++ edits.filterMap fun e => e.span?.map (·.stop))

/-- A reply about media of the given length, when it holds a segment or an edit. A length that is
not positive counts as unknown. -/
def reply? (text : String) (duration : Binary64) : Option (Reply Binary64) := do
  let payload ← payload? text
  let segments := (listField "segments" payload).filterMap segment?
  let steps := (listField "steps" payload).map step
  let edits := editsOf payload steps
  if segments.isEmpty ∧ edits.isEmpty then none
  else
    let known := Scalar.isFinite duration ∧ 0 < duration
    some
      { features := .ofSegments (if known then duration else lastEnd segments edits) segments
        events := (listField "events" payload).filterMap event?
        edits := edits
        summary := textField? ["final_answer", "summary"] payload
        steps := steps }

end Agent

/-- The reply to a request. One that brings no segments keeps those that the agent was given. -/
def Request.reply? (r : Request Binary64) (text : String) : Option (Reply Binary64) :=
  (Agent.reply? text r.duration).map fun reply =>
    if reply.features.segments.isEmpty ∧ ¬ r.existing.isEmpty then
      let duration :=
        if 0 < r.duration then r.duration
        else Scalar.maximum reply.mediaDuration (r.existing.map (·.span.stop))
      { reply with features := .ofSegments duration r.existing }
    else reply

end Montage
