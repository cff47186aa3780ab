import Montage.Analysis.Features
import Montage.Json.Members
import Montage.Selection

/-!
Segments, intents, selections and features as JSON.
-/

namespace Montage

def Tags.toJson (tags : Tags Binary64) : Json :=
  .object [
    ("hasFace", .bool tags.hasFace),
    ("hasAction", .bool tags.hasAction),
    ("hasDialogue", .bool tags.hasDialogue),
    ("motionScore", .ofReal tags.motion),
    ("speechDensity", .ofReal tags.speech)]

def Tags.ofJson? (j : Json) : Option (Tags Binary64) := do
  let m ← j.members? ["hasFace", "hasAction", "hasDialogue", "motionScore", "speechDensity"]
  some
    { hasFace := ← m.withDefault "hasFace" false Json.bool?
      hasAction := ← m.withDefault "hasAction" false Json.bool?
      hasDialogue := ← m.withDefault "hasDialogue" false Json.bool?
      motion := ← m.withDefault "motionScore" 0 Json.number?
      speech := ← m.withDefault "speechDensity" 0 Json.number? }

namespace Segment

def fields (s : Segment Binary64) : List (String × Json) :=
  [("id", .string s.id),
    ("start", .ofReal s.span.start),
    ("end", .ofReal s.span.stop),
    ("duration", .ofReal s.duration),
    ("energy", .ofReal s.energy),
    ("tags", s.tags.toJson)]

def toJson (s : Segment Binary64) : Json :=
  .object s.fields

def names : List String :=
  ["id", "start", "end", "duration", "energy", "tags"]

def ofMembers? (m : Json.Members) : Option (Segment Binary64) := do
  some
    { id := ← m.required "id" Json.string?
      span := ⟨← m.required "start" Json.number?, ← m.required "end" Json.number?⟩
      duration := ← m.required "duration" Json.number?
      energy := ← m.required "energy" Json.number?
      tags := ← m.withDefault "tags" Tags.none Tags.ofJson? }

def ofJson? (j : Json) : Option (Segment Binary64) :=
  (j.members? names).bind ofMembers?

end Segment

namespace Pick

def toJson (p : Pick Binary64) : Json :=
  .object (p.toSegment.fields ++ [("reason", .string p.reason)])

def ofJson? (j : Json) : Option (Pick Binary64) := do
  let m ← j.members? (Segment.names ++ ["reason"])
  let segment ← Segment.ofMembers? m
  some ⟨segment, ← m.withDefault "reason" "" Json.string?⟩

end Pick

namespace Selection

def toJson (s : Selection Binary64) : Json :=
  .object [
    ("clips", .array (s.picks.map Pick.toJson)),
    ("totalDuration", .ofReal s.total),
    ("targetDuration", .ofReal s.target)]

def ofJson? (j : Json) : Option (Selection Binary64) := do
  let m ← j.members? ["clips", "totalDuration", "targetDuration"]
  some
    { picks := ← m.required "clips" (Json.listOf? Pick.ofJson?)
      total := ← m.required "totalDuration" Json.number?
      target := ← m.required "targetDuration" Json.number? }

end Selection

def Style.names : List (String × Style) :=
  [("fast", .fast), ("slow", .slow), ("balanced", .balanced)]

def Focus.names : List (String × Focus) :=
  [("none", .none), ("face", .face), ("action", .action)]

def Template.names : List (String × Template) :=
  [("general", .general), ("vlog", .vlog), ("sport", .sport), ("story", .story)]

/-- The name of a choice in a list that names every choice. -/
def Json.nameOf {α : Type} [DecidableEq α] (names : List (String × α)) (choice : α) : Json :=
  .ofOption (.string ·.1) (names.find? (·.2 = choice))

namespace Intent

def toJson (i : Intent Binary64) : Json :=
  .object [
    ("targetDuration", .ofReal i.target),
    ("style", .nameOf Style.names i.style),
    ("focus", .nameOf Focus.names i.focus),
    ("template", .nameOf Template.names i.template),
    ("keepStart", .bool i.keepStart),
    ("keepEnd", .bool i.keepEnd)]

/-- Fields that are left out are as in the default intent. The target is read by `number?`. -/
def readWith? (number? : Json → Option Binary64) (j : Json) : Option (Intent Binary64) := do
  let m ← j.members? ["targetDuration", "style", "focus", "template", "keepStart", "keepEnd"]
  let usual : Intent Binary64 := default
  some
    { target := ← m.withDefault "targetDuration" usual.target number?
      style := ← m.withDefault "style" usual.style (Json.choice? Style.names)
      focus := ← m.withDefault "focus" usual.focus (Json.choice? Focus.names)
      template := ← m.withDefault "template" usual.template (Json.choice? Template.names)
      keepStart := ← m.withDefault "keepStart" usual.keepStart Json.bool?
      keepEnd := ← m.withDefault "keepEnd" usual.keepEnd Json.bool? }

def ofJson? : Json → Option (Intent Binary64) :=
  readWith? Json.number?

end Intent

namespace Keyframe

def toJson (k : Keyframe Binary64) : Json :=
  .object [("time", .ofReal k.time), ("energy", .ofReal k.energy)]

def ofJson? (j : Json) : Option (Keyframe Binary64) := do
  let m ← j.members? ["time", "energy"]
  some ⟨← m.required "time" Json.number?, ← m.required "energy" Json.number?⟩

end Keyframe

namespace Features

def fields (f : Features Binary64) : List (String × Json) :=
  [("duration", .ofReal f.duration),
    ("segmentCount", .ofNat f.segmentCount),
    ("segments", .array (f.segments.map Segment.toJson)),
    ("keyframes", .array (f.keyframes.map Keyframe.toJson)),
    ("rhythmScore", .ofReal f.rhythm)]

def toJson (f : Features Binary64) : Json :=
  .object f.fields

def ofMembers? (m : Json.Members) : Option (Features Binary64) := do
  some
    { duration := ← m.required "duration" Json.number?
      segmentCount := ← m.required "segmentCount" (Json.natural? (pow2 64))
      segments := ← m.required "segments" (Json.listOf? Segment.ofJson?)
      keyframes := ← m.required "keyframes" (Json.listOf? Keyframe.ofJson?)
      rhythm := ← m.required "rhythmScore" Json.number? }

def ofJson? (j : Json) : Option (Features Binary64) :=
  (j.members? ["duration", "segmentCount", "segments", "keyframes", "rhythmScore"]).bind ofMembers?

end Features

end Montage
