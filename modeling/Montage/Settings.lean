import Montage.Document.Edit
import Montage.Export.Error
import Montage.Json.Parser

/-!
Settings of an export: from a file, and over it from the environment.
-/

namespace Montage

structure Settings where
  encoderTool : String
  proberTool : String
  videoCodec : String
  videoBitrate : String
  audioCodec : String
  audioBitrate : String
  /-- Where workspaces are made; the system's directory for such files when none is given. -/
  scratch : Option Path
  probeSeconds : Nat
  /-- The frame of a source whose frame cannot be found out. -/
  fallbackWidth : Nat
  fallbackHeight : Nat
  font : Option Path
  /-- The volume of music that no edit asked for. -/
  musicVolume : Binary64
  deriving DecidableEq

namespace Settings

def default : Settings :=
  { encoderTool := "ffmpeg"
    proberTool := "ffprobe"
    videoCodec := "libx264"
    videoBitrate := "4000k"
    audioCodec := "aac"
    audioBitrate := "128k"
    scratch := none
    probeSeconds := 10
    fallbackWidth := 1920
    fallbackHeight := 1080
    font := none
    musicVolume := defaultMusicVolume }

def names : List String :=
  ["ffmpeg_bin", "ffprobe_bin", "video_codec", "video_bitrate", "audio_codec", "audio_bitrate",
    "temp_dir", "probe_timeout_secs", "fallback_width", "fallback_height", "font_file",
    "default_bgm_volume"]

def toJson (s : Settings) : Json :=
  .object [
    ("ffmpeg_bin", .string s.encoderTool),
    ("ffprobe_bin", .string s.proberTool),
    ("video_codec", .string s.videoCodec),
    ("video_bitrate", .string s.videoBitrate),
    ("audio_codec", .string s.audioCodec),
    ("audio_bitrate", .string s.audioBitrate),
    ("temp_dir", .ofOption (.string ·.text) s.scratch),
    ("probe_timeout_secs", .ofNat s.probeSeconds),
    ("fallback_width", .ofNat s.fallbackWidth),
    ("fallback_height", .ofNat s.fallbackHeight),
    ("font_file", .ofOption (.string ·.text) s.font),
    ("default_bgm_volume", .ofReal s.musicVolume)]

def path? (j : Json) : Option Path :=
  j.string?.map Path.mk

/-- Fields that are left out are as in the default settings. -/
def ofJson? (j : Json) : Option Settings := do
  let m ← j.members? names
  some
    { encoderTool := ← m.withDefault "ffmpeg_bin" default.encoderTool Json.string?
      proberTool := ← m.withDefault "ffprobe_bin" default.proberTool Json.string?
      videoCodec := ← m.withDefault "video_codec" default.videoCodec Json.string?
      videoBitrate := ← m.withDefault "video_bitrate" default.videoBitrate Json.string?
      audioCodec := ← m.withDefault "audio_codec" default.audioCodec Json.string?
      audioBitrate := ← m.withDefault "audio_bitrate" default.audioBitrate Json.string?
      scratch := ← m.optionalWithDefault "temp_dir" path?
      probeSeconds := ← m.withDefault "probe_timeout_secs" default.probeSeconds
        (Json.natural? (pow2 64))
      fallbackWidth := ← m.withDefault "fallback_width" default.fallbackWidth
        (Json.natural? (pow2 32))
      fallbackHeight := ← m.withDefault "fallback_height" default.fallbackHeight
        (Json.natural? (pow2 32))
      font := ← m.optionalWithDefault "font_file" path?
      musicVolume := ← m.withDefault "default_bgm_volume" default.musicVolume Json.number? }

/-- Settings from the text of a file. -/
def parse? (text : String) : Option Settings :=
  (Json.parseRecord? names text).bind ofJson?

/-- The settings in a file, if there is one. -/
def read (disk : Disk) (path : Path) : Except ExportError (Option Settings) :=
  if (disk.node? path).isNone then .ok none
  else match disk.readText path with
    | .error e => .error (.file e)
    | .ok text =>
      match parse? text with
      | some settings => .ok (some settings)
      | none => .error (.settings (path.text ++ ": not a settings object"))

/-- The settings with what the environment says instead. -/
def withEnvironment (bindings : List (String × String)) (s : Settings) : Settings :=
  let value (name : String) : Option String := bindings.lookup name
  { s with
    encoderTool := (value "SYNOID_FFMPEG").getD s.encoderTool
    proberTool := (value "SYNOID_FFPROBE").getD s.proberTool
    videoCodec := (value "SYNOID_VIDEO_CODEC").getD s.videoCodec
    scratch := ((value "SYNOID_TEMP_DIR").map Path.mk).or s.scratch
    font := ((value "SYNOID_FONT_FILE").map Path.mk).or s.font }

/-- The system's directory for files that do not last. -/
def systemScratch (bindings : List (String × String)) : Path :=
  ⟨(bindings.lookup "TMPDIR").getD "/tmp"⟩

def scratchIn (bindings : List (String × String)) (s : Settings) : Path :=
  s.scratch.getD (systemScratch bindings)

end Settings

end Montage
