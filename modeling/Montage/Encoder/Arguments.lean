import Montage.Caption.Image
import Montage.Encoder.Basic
import Montage.Number.Decimal
import Montage.Settings

/-!
The command lines of the encoder and the prober.
-/

namespace Montage

/-- A path that no tool takes for an option. -/
def Path.guarded (p : Path) : Path :=
  if p.text.toList.head? = some '-' then (⟨"."⟩ : Path).join p else p

namespace InputMode

/-- The options before a looped input. -/
def options : InputMode → List String
  | still seconds => ["-loop", "1", "-t", Scalar.seconds seconds]
  | stream => ["-stream_loop", "-1"]

end InputMode

namespace ExtraInput

def arguments (input : ExtraInput) : List String :=
  input.mode.options ++ ["-i", input.path.guarded.text]

end ExtraInput

namespace EncodeJob

/-- All arguments of an encode: inputs in order, graph, outputs, codecs, cap and the output file. -/
def arguments (settings : Settings) (job : EncodeJob) : List String :=
  ["-y", "-hide_banner", "-i", job.source.guarded.text] ++
    job.extraInputs.flatMap ExtraInput.arguments ++
    ["-filter_complex", job.description] ++
    job.outputs.flatMap (["-map", ·]) ++
    ["-c:v", settings.videoCodec, "-b:v", settings.videoBitrate, "-c:a", settings.audioCodec,
      "-b:a", settings.audioBitrate, "-pix_fmt", "yuv420p"] ++
    (match job.cap with
      | some cap => ["-t", Scalar.seconds cap]
      | none => []) ++
    [job.output.guarded.text]

end EncodeJob

namespace TextImageJob

def arguments (settings : Settings) (job : TextImageJob) (output : Path) : List String :=
  ["-y", "-hide_banner", "-f", "lavfi", "-i", Caption.canvas job.width job.height, "-vf",
    Caption.filter job.words job.position job.height (settings.font.map (·.text)), "-frames:v", "1",
    output.guarded.text]

end TextImageJob

/-- What the prober is asked for: some entries of the first picture stream, in some layout. -/
def probeArguments (entries layout : String) (path : Path) : List String :=
  ["-v", "error", "-select_streams", "v:0", "-show_entries", entries, "-of", layout,
    path.guarded.text]

end Montage
