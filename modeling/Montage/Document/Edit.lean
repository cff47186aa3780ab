import Montage.Edit.Basic
import Montage.Json.Members

/-!
Edits as JSON: an object whose field `type` names the kind.
-/

namespace Montage

namespace TextPosition

def names : List (String × TextPosition) :=
  [("top", .top), ("center", .center), ("bottom", .bottom)]

def name : TextPosition → String
  | top => "top"
  | center => "center"
  | bottom => "bottom"

end TextPosition

def FadeDirection.names : List (String × FadeDirection) :=
  [("in", .fadeIn), ("out", .fadeOut)]

namespace CropRect

def toJson (c : CropRect Binary64) : Json :=
  .object [("x", .ofReal c.x), ("y", .ofReal c.y), ("width", .ofReal c.width),
    ("height", .ofReal c.height)]

def ofJson? (j : Json) : Option (CropRect Binary64) := do
  let m ← j.members? ["x", "y", "width", "height"]
  some
    { x := ← m.required "x" Json.number?
      y := ← m.required "y" Json.number?
      width := ← m.required "width" Json.number?
      height := ← m.required "height" Json.number? }

end CropRect

namespace Transform

def toJson (t : Transform Binary64) : Json :=
  .object ([
    ("scale", .ofReal t.scale),
    ("x", .ofReal t.x),
    ("y", .ofReal t.y),
    ("rotate", .ofReal t.rotate),
    ("flipX", .bool t.flipX),
    ("flipY", .bool t.flipY)] ++
    t.crop.toList.map fun crop => ("crop", crop.toJson))

/-- Fields that are left out are as in the identity. -/
def ofJson? (j : Json) : Option (Transform Binary64) := do
  let m ← j.members? ["scale", "x", "y", "rotate", "flipX", "flipY", "crop"]
  some
    { scale := ← m.withDefault "scale" identity.scale Json.number?
      x := ← m.withDefault "x" identity.x Json.number?
      y := ← m.withDefault "y" identity.y Json.number?
      rotate := ← m.withDefault "rotate" identity.rotate Json.number?
      flipX := ← m.withDefault "flipX" false Json.bool?
      flipY := ← m.withDefault "flipY" false Json.bool?
      crop := ← m.optionalWithDefault "crop" CropRect.ofJson? }

end Transform

namespace Edit

/-- The fields of an edit after its window. -/
def ownFields : Edit Binary64 → List (String × Json)
  | split _ | delete _ => []
  | speed _ rate => [("rate", .ofReal rate)]
  | text _ words position => [("text", .string words), ("position", .string position.name)]
  | fade _ direction => [("direction", .string direction.name)]
  | volume _ level => [("volume", .ofReal level)]
  | transform _ change => [("transform", change.toJson)]
  | music keywords level => [("keywords", .string keywords), ("volume", .ofReal level)]

def spanFields (span : Span Binary64) : List (String × Json) :=
  [("start", .ofReal span.start), ("end", .ofReal span.stop)]

def toJson (e : Edit Binary64) : Json :=
  .object (("type", .string e.kind.name) :: (e.span?.toList.flatMap spanFields ++ e.ownFields))

/-- The fields of a kind of edit, in the order in which an array gives them. -/
def names (kind : String) : List String :=
  match kind with
  | "speed" => ["start", "end", "rate"]
  | "text" => ["start", "end", "text", "position"]
  | "fade" => ["start", "end", "direction"]
  | "volume" => ["start", "end", "volume"]
  | "transform" => ["start", "end", "transform"]
  | "bgm" => ["keywords", "volume"]
  | _ => ["start", "end"]

def spanOf? (m : Json.Members) : Option (Span Binary64) := do
  some ⟨← m.required "start" Json.number?, ← m.required "end" Json.number?⟩

def ofMembers? (kind : String) (m : Json.Members) : Option (Edit Binary64) :=
  match kind with
  | "split" => (spanOf? m).map .split
  | "speed" => do some (.speed (← spanOf? m) (← m.required "rate" Json.number?))
  | "delete" => (spanOf? m).map .delete
  | "text" => do
    some (.text (← spanOf? m) (← m.required "text" Json.string?)
      (← m.withDefault "position" .bottom (Json.choiceBesideTag? TextPosition.names)))
  | "fade" => do
    some (.fade (← spanOf? m)
      (← m.required "direction" (Json.choiceBesideTag? FadeDirection.names)))
  | "volume" => do some (.volume (← spanOf? m) (← m.required "volume" Json.number?))
  | "transform" => do some (.transform (← spanOf? m) (← m.required "transform" Transform.ofJson?))
  | "bgm" => do
    some (.music (← m.required "keywords" Json.string?)
      (← m.withDefault "volume" defaultMusicVolume Json.number?))
  | _ => none

def ofJson? (j : Json) : Option (Edit Binary64) := do
  let (kind, m) ← j.taggedMembers? "type" names
  ofMembers? kind m

end Edit

end Montage
