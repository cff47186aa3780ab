import Montage.Document.Edit
import Montage.Timeline.Basic

/-!
Clips and timelines as JSON. What a clip does not have is left out.
-/

namespace Montage

namespace Clip

def toJson (c : Clip Binary64) : Json :=
  .object ([
    ("id", .string c.id),
    ("start", .ofReal c.span.start),
    ("end", .ofReal c.span.stop),
    ("duration", .ofReal c.duration),
    ("playbackRate", .ofReal c.rate),
    ("timelineStart", .ofReal c.timelineStart),
    ("displayDuration", .ofReal c.displayDuration),
    ("volume", .ofReal c.volume)] ++
    c.transform.toList.map (fun change => ("transform", change.toJson)) ++
    c.edit.toList.map (fun edit => ("edit", edit.toJson)) ++
    c.reason.toList.map (fun reason => ("reason", .string reason)))

def ofJson? (j : Json) : Option (Clip Binary64) := do
  let m ← j.members? ["id", "start", "end", "duration", "playbackRate", "timelineStart",
    "displayDuration", "volume", "transform", "edit", "reason"]
  some
    { id := ← m.required "id" Json.string?
      span := ← Edit.spanOf? m
      duration := ← m.required "duration" Json.number?
      rate := ← m.required "playbackRate" Json.number?
      timelineStart := ← m.required "timelineStart" Json.number?
      displayDuration := ← m.required "displayDuration" Json.number?
      volume := ← m.withDefault "volume" 1 Json.number?
      transform := ← m.optionalWithDefault "transform" Transform.ofJson?
      edit := ← m.optionalWithDefault "edit" Edit.ofJson?
      reason := ← m.optionalWithDefault "reason" Json.string? }

end Clip

namespace OverlayContent

def fields : OverlayContent → List (String × Json)
  | text words position =>
    [("type", .string "text"), ("text", .string words), ("position", .string position.name)]
  | fade direction => [("type", .string "fade"), ("direction", .string direction.name)]

def toJson (content : OverlayContent) : Json :=
  .object content.fields

/-- The content of the given kind. -/
def ofMembers? (kind : String) (m : Json.Members) : Option OverlayContent :=
  match kind with
  | "text" => do
    some (.text (← m.required "text" Json.string?)
      (← m.withDefault "position" .bottom (Json.choiceBesideTag? TextPosition.names)))
  | "fade" => (m.required "direction" (Json.choiceBesideTag? FadeDirection.names)).map .fade
  | _ => none

def names (kind : String) : List String :=
  match kind with
  | "text" => ["text", "position"]
  | _ => ["direction"]

def ofJson? (j : Json) : Option OverlayContent := do
  let (kind, m) ← j.taggedMembers? "type" names
  ofMembers? kind m

/-- Beside the windows of an overlay, a kind is given by name or by its number. -/
def kind? : Json → Option String
  | .string s => some s
  | .integer 0 => some "text"
  | .integer 1 => some "fade"
  | _ => none

end OverlayContent

namespace Overlay

def toJson (o : Overlay Binary64) : Json :=
  .object ([
    ("start", .ofReal o.span.start),
    ("end", .ofReal o.span.stop),
    ("timelineStart", .ofReal o.shown.start),
    ("timelineEnd", .ofReal o.shown.stop)] ++ o.content.fields)

def ofJson? (j : Json) : Option (Overlay Binary64) := do
  let m ← j.namedMembers?
  some
    { span := ← Edit.spanOf? m
      shown := ⟨← m.required "timelineStart" Json.number?, ← m.required "timelineEnd" Json.number?⟩
      content := ← OverlayContent.ofMembers? (← m.required "type" OverlayContent.kind?) m }

end Overlay

namespace Music

def toJson (m : Music Binary64) : Json :=
  .object [("keywords", .string m.keywords), ("volume", .ofReal m.volume)]

def ofJson? (j : Json) : Option (Music Binary64) := do
  let m ← j.members? ["keywords", "volume"]
  some ⟨← m.required "keywords" Json.string?, ← m.required "volume" Json.number?⟩

end Music

namespace Timeline

def toJson (t : Timeline Binary64) : Json :=
  .object [
    ("clips", .array (t.clips.map Clip.toJson)),
    ("totalTimelineDuration", .ofReal t.total),
    ("textEdits", .array (t.texts.map Overlay.toJson)),
    ("fadeEdits", .array (t.fades.map Overlay.toJson)),
    ("bgmEdits", .array (t.music.map Music.toJson))]

def ofJson? (j : Json) : Option (Timeline Binary64) := do
  let m ← j.members? ["clips", "totalTimelineDuration", "textEdits", "fadeEdits", "bgmEdits"]
  some
    { clips := ← m.required "clips" (Json.listOf? Clip.ofJson?)
      total := ← m.required "totalTimelineDuration" Json.number?
      texts := ← m.required "textEdits" (Json.listOf? Overlay.ofJson?)
      fades := ← m.required "fadeEdits" (Json.listOf? Overlay.ofJson?)
      music := ← m.required "bgmEdits" (Json.listOf? Music.ofJson?) }

end Timeline

end Montage
