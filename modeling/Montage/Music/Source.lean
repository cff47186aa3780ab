import Montage.Disk.Path
import Montage.Export.Run
import Montage.Text.Alphanumeric
import Montage.Text.LetterCase
import Montage.Text.Lines

/-!
Picking the track that matches some keywords best.
-/

namespace Montage.Music

/-- The runs of letters and digits of a text, in lower case. -/
def words (text : String) : List (List Char) :=
  ((Text.splitOn (!Text.isAlphanumeric ·) text.toList).filter (!·.isEmpty)).map Text.lower

/-- How many of the words occur in the name of a track. -/
def hits (words : List (List Char)) (track : Path) : Nat :=
  let name := Text.lower (track.stem?.getD "").toList
  words.countP fun word => Text.contains word name

/-- The first of the tracks with the most hits. -/
def best? (score : Path → Nat) : List Path → Option Path
  | [] => none
  | track :: rest =>
    some (rest.foldl (fun best other => if score best < score other then other else best) track)

def pick? (tracks : List Path) (keywords : String) : Option Path :=
  best? (hits (words keywords)) tracks

end Montage.Music

/-!
Where background music comes from.
-/

namespace Montage

structure Track where
  path : Path
  duration : Binary64
  deriving DecidableEq

/-- A track that was found. Its length may still have to be probed. -/
structure FoundTrack where
  path : Path
  duration : Option Binary64
  deriving DecidableEq

/-- A source finds a track on a disk by keywords. -/
abbrev MusicSource := Disk → String → Except ExportError FoundTrack

namespace Music

def extensions : List String :=
  ["mp3", "wav", "m4a", "aac", "ogg", "flac"]

def isAudio (p : Path) : Bool :=
  p.extension?.any fun extension =>
    extensions.contains (String.ofList (Text.lower extension.toList))

/-- The audio files in a directory, by name. What cannot be listed holds none. -/
def scan (disk : Disk) (directory : Path) : List Path :=
  match disk.list directory with
  | .error _ => []
  | .ok names =>
    (names.map fun name => directory.join ⟨name⟩).filter fun path =>
      disk.isFile path && isAudio path

/-- A file, or the best match among those in a directory. -/
def localSource (root : Path) : MusicSource := fun disk keywords =>
  if disk.isDirectory root then
    match pick? (scan disk root) keywords with
    | some path => .ok ⟨path, none⟩
    | none => .error (.music ("no audio files in " ++ Text.quoted root.text))
  else if disk.isFile root then .ok ⟨root, none⟩
  else .error (.music (Text.quoted root.text ++ " does not exist"))

/-- A track from a source, its length probed when the source does not know it. -/
def resolve (encoder : Encoder) (source : MusicSource) (keywords : String) : Run Track :=
  fun w => match source w.disk keywords with
    | .error e => (.error e, w)
    | .ok found =>
      match found.duration with
      | some duration => (.ok ⟨found.path, duration⟩, w)
      | none =>
        match encoder.runDuration found.path w with
        | (.ok duration, w) => (.ok ⟨found.path, duration⟩, w)
        | (.error e, w) => (.error (.music e.message), w)

end Music

end Montage
