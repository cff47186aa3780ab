import Montage.Export.Run
import Montage.Music.Source
import Montage.Plan.Build
import Montage.Settings

/-!
Exporting a timeline: stage the source, find out its frame, find the music, plan, make the text
images, encode, and move the result to its destination. All files but the last are made in a
workspace that is removed in any case.
-/

namespace Montage

structure ExportRequest where
  source : Path
  timeline : Timeline Binary64
  destination : Path
  id : String
  deriving DecidableEq

structure ExportReport where
  request : String
  output : Path
  clipCount : Nat
  total : Binary64
  textOverlays : Nat
  frame : Nat × Nat
  music : Option Path
  deriving DecidableEq

namespace ExportReport

def toJson (r : ExportReport) : Json :=
  .object [
    ("request_id", .string r.request),
    ("output", .string r.output.text),
    ("clip_count", .ofNat r.clipCount),
    ("total_duration", .ofReal r.total),
    ("text_overlays", .ofNat r.textOverlays),
    ("frame_size", .array [.ofNat r.frame.1, .ofNat r.frame.2]),
    ("bgm", .ofOption (.string ·.text) r.music)]

end ExportReport

namespace Export

def usualExtension : String :=
  "mp4"

/-- The extension of a path, or the usual one when it has none. -/
def extensionOf (p : Path) : String :=
  (p.extension?.filter (· ≠ "")).getD usualExtension

/-- The source in the workspace: a second name for it where that is possible, else a copy. -/
def stage (workspace : Workspace) (source : Path) : Run Path := do
  let staged := workspace.file ("input." ++ extensionOf source)
  Run.changeOr (·.link source staged) (·.copy source staged)
  return staged

/-- The frame of the source, or the usual one when it cannot be found out. -/
def frameOf (encoder : Encoder) (settings : Settings) (staged : Path) : Run (Nat × Nat) := do
  match ← (encoder.runFrameSize staged).attempt with
  | .ok frame => return frame
  | .error _ => return (settings.fallbackWidth, settings.fallbackHeight)

/-- The track for the first request for music. An export goes on without one. -/
def trackOf (encoder : Encoder) (source : Option MusicSource) (t : Timeline Binary64) :
    Run (Option Track) :=
  match t.music.head?, source with
  | some music, some source => do
    match ← (Music.resolve encoder source music.keywords).attempt with
    | .ok track => return some track
    | .error _ => return none
  | _, _ => return none

def imageName (input : Nat) : String :=
  "text-" ++ Decimal.natural input ++ ".png"

/-- The inputs beside the source, from the given number on: an image is made for every text, and
music is read from its track. -/
def extraInputs (encoder : Encoder) (workspace : Workspace) (frame : Nat × Nat)
    (track : Option Track) (number : Nat) : List (PlanInput Binary64) → Run (List ExtraInput)
  | [] => return []
  | .source :: rest => extraInputs encoder workspace frame track (number + 1) rest
  | .textImage overlay words position seconds :: rest => do
    let image := workspace.file (imageName number)
    encoder.runTextImage ⟨overlay, words, position, frame.1, frame.2⟩ image
    let more ← extraInputs encoder workspace frame track (number + 1) rest
    return ⟨image, .still seconds⟩ :: more
  | .music .. :: rest => do
    let more ← extraInputs encoder workspace frame track (number + 1) rest
    return (track.toList.map fun track => ⟨track.path, .stream⟩) ++ more

/-- Moves the finished file, or copies it where it cannot be moved. -/
def persist (output destination : Path) : Run Unit := do
  match destination.parent? with
  | none => pure ()
  | some parent => Run.changeInSteps (·.createDirectories parent)
  Run.changeOr (·.rename output destination) (·.copy output destination)

/-- All that happens inside the workspace. -/
def work (encoder : Encoder) (source : Option MusicSource) (settings : Settings)
    (request : ExportRequest) (workspace : Workspace) : Run ExportReport := do
  let t := request.timeline
  let staged ← stage workspace request.source
  let frame ← frameOf encoder settings staged
  let track ← trackOf encoder source t
  let plan ← Run.ofExcept
    ((Plan.build t ⟨frame.1, frame.2, track.isSome⟩).mapError ExportError.ofPlan)
  let extra ← extraInputs encoder workspace frame track 0 plan.inputs
  let output := workspace.file ("output." ++ extensionOf request.destination)
  let outcome ← encoder.runEncode
    { source := staged
      description := plan.description
      extraInputs := extra
      outputs := plan.outputs
      cap := plan.cap
      output := output }
  if outcome.succeeded then
    persist output request.destination
    return {
      request := request.id
      output := request.destination
      clipCount := t.clips.length
      total := plan.total
      textOverlays := plan.textImages.length
      frame := frame
      music := track.map (·.path) }
  else Run.fail (.encoderFailed outcome.exitCode outcome.tail)

/-- Exports a timeline. Nothing happens at all when it has no clips. -/
def run (encoder : Encoder) (source : Option MusicSource) (settings : Settings) (scratch : Path)
    (request : ExportRequest) : Run ExportReport :=
  if request.timeline.clips.isEmpty then Run.fail .nothingToRender
  else do
    let workspace ← Workspace.create scratch request.id
    Run.finally_ (work encoder source settings request workspace) workspace.remove

end Export

end Montage
