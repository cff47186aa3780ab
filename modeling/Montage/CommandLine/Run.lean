import Montage.Analysis.Features
import Montage.CommandLine.Inputs
import Montage.Document.Plan
import Montage.Document.Timeline
import Montage.Encoder.Tools
import Montage.Environment.Variables
import Montage.Export.Timeline
import Montage.Timeline.Compile

/-!
Running a command on a disk.
-/

namespace Montage.CommandLine

/-- How a command ends. -/
inductive Ending
  | done (answer : Json)
  | help
  | wrongUsage
  | failed (message : Message)
  /-- The environment cannot be set up, and nothing is said about it. -/
  | crashed

namespace Ending

def exitCode : Ending → Nat
  | done _ | help => 0
  | failed _ => 1
  | wrongUsage => 2
  | crashed => 101

def ofExcept : Except Message Json → Ending
  | .ok answer => done answer
  | .error message => failed message

end Ending

/-- The timeline of the edits over the selection. Without a selection the length has to be known. -/
def compile (disk : Disk) (args : TimelineArguments) (duration : Option Binary64) :
    Except Message (Timeline Binary64) := do
  let edits ← readEdits disk args.edits
  let picks ← readPicks disk args
  let duration := (duration.or args.duration).getD 0
  if picks.isEmpty ∧ duration ≤ 0 then .error "without --segments the media --duration is required"
  else .ok (.compile picks edits duration)

/-- A message in front of whatever went wrong. -/
def saying {α : Type} (message : Message) (result : Except ExportError α) : Except Message α :=
  result.mapError fun _ => message

def parse (disk : Disk) (response : Path) (duration : Binary64) (segments : Option Path) :
    Except Message Json := do
  let text ← readText disk response
  let existing ← match segments with
    | some path => readSegments disk path
    | none => .ok []
  match Request.reply? ⟨duration, existing⟩ text with
  | some reply => .ok reply.toJson
  | none => .error ("no usable segments or edits in " ++ response.text)

/-- The size of what is at a path. -/
def sizeOf? (disk : Disk) (path : Path) : Option Nat :=
  (disk.node? path).map fun
    | .file content => content.bytes.length
    | _ => 4096

def analyze (bindings : Variables) (disk : Disk) (settings : Settings) (input : Path) :
    Except Message Json × Disk :=
  let (probed, disk) := (Encoder.tools bindings settings).duration input disk
  let answer := do
    let duration ← saying ("probing " ++ input.text) probed
    match sizeOf? disk input with
    | none => .error ("reading " ++ input.text)
    | some size =>
      let segments := Placeholder.segmentsOf (input.fileName?.getD "") size duration
      .ok (Features.ofSegments duration segments).toJson
  (answer, disk)

def scrub (t : Timeline Binary64) : Instant → Json
  | .media m =>
    .object [("media", .ofReal m), ("timeline", .ofReal (Clip.mediaToTimeline t.clips m))]
  | .timeline u =>
    .object [("media", .ofReal (Clip.timelineToMedia t.clips u)), ("timeline", .ofReal u)]

/-- The music of a timeline when the command line names a source: the edits that ask for some, or
else one for the whole, all at the given volume. -/
def musicFor (settings : Settings) (source : Option Path) (volume : Option Binary64)
    (music : List (Music Binary64)) : List (Music Binary64) :=
  let music := match source, music with
    | some path, [] => [⟨path.stem?.getD "", Scalar.clamp 0 1 settings.musicVolume⟩]
    | _, music => music
  match volume with
  | some level => music.map ({ · with volume := Scalar.clamp 0 1 level })
  | none => music

structure Environment where
  bindings : Variables
  /-- The name of a request that gives none. -/
  requestId : String

/-- What an export says when it fails. Errors of the system are not told apart. -/
def messageOf : ExportError → Message
  | .file e => if e.isSystem then "IO error" else (ExportError.file e).message
  | e => e.message

def runExport (env : Environment) (settings : Settings) (input : Path) (args : TimelineArguments)
    (output : Path) (music : Option Path) (volume : Option Binary64) (disk : Disk) :
    Except Message Json × Disk :=
  let encoder := Encoder.tools env.bindings settings
  let (probed, disk) := match args.duration with
    | some duration => (.ok duration, disk)
    | none => encoder.duration input disk
  let compiled := do
    let duration ← saying ("probing " ++ input.text) probed
    compile disk args (some duration)
  match compiled with
  | .error message => (.error message, disk)
  | .ok t =>
    let t := { t with music := musicFor settings music volume t.music }
    let scratch := settings.scratchIn env.bindings
    let (report, world) := Export.run encoder (music.map Music.localSource) settings scratch
      ⟨input, t, output, env.requestId⟩ ⟨disk, []⟩
    ((report.mapError messageOf).map ExportReport.toJson, world.disk)

def runCommand (env : Environment) (disk : Disk) : Command → Except Message Json × Disk
  | .select segments intent =>
    let answer := do
      let segments ← readSegments disk segments
      return (Selection.ofSegments segments (← readIntent disk intent)).toJson
    (answer, disk)
  | .compile args => ((compile disk args none).map Timeline.toJson, disk)
  | .plan args width height =>
    let answer := do
      let t ← compile disk args none
      ((Plan.build t ⟨width, height, true⟩).mapError PlanError.message).map RenderPlan.toJson
    (answer, disk)
  | .parse response duration segments => (parse disk response duration segments, disk)
  | .analyze input => analyze env.bindings disk (readSettings disk env.bindings) input
  | .scrub args instant => ((compile disk args none).map (scrub · instant), disk)
  | .export input args output music volume =>
    runExport env (readSettings disk env.bindings) input args output music volume disk

/-- Runs the command that the arguments name. -/
def run (env : Environment) (args : List String) (disk : Disk) : Ending × Disk :=
  match env.bindings.withFile? disk, Command.ofArguments args with
  | none, _ => (.crashed, disk)
  | _, .error .help => (.help, disk)
  | _, .error .usage => (.wrongUsage, disk)
  | some bindings, .ok command =>
    let (result, disk) := runCommand { env with bindings := bindings } disk command
    (.ofExcept result, disk)

end Montage.CommandLine
