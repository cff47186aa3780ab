import Montage.Document.Edit
import Montage.Plan.Basic

/-!
Plans and their options as JSON.
-/

namespace Montage

namespace PlanOptions

def toJson (o : PlanOptions) : Json :=
  .object [("frame_width", .ofNat o.width), ("frame_height", .ofNat o.height),
    ("mix_bgm", .bool o.mixMusic)]

/-- Fields that are left out are as in the default options. -/
def ofJson? (j : Json) : Option PlanOptions := do
  let m ← j.members? ["frame_width", "frame_height", "mix_bgm"]
  some
    { width := ← m.withDefault "frame_width" default.width (Json.natural? (pow2 32))
      height := ← m.withDefault "frame_height" default.height (Json.natural? (pow2 32))
      mixMusic := ← m.withDefault "mix_bgm" default.mixMusic Json.bool? }

end PlanOptions

namespace PlanInput

def toJson : PlanInput Binary64 → Json
  | source => .object [("kind", .string "source")]
  | textImage overlay words position seconds =>
    .object [("kind", .string "text_image"), ("overlay", .ofNat overlay), ("text", .string words),
      ("position", .string position.name), ("loop_seconds", .ofReal seconds)]
  | music keywords volume =>
    .object [("kind", .string "bgm"), ("keywords", .string keywords), ("volume", .ofReal volume)]

def names (kind : String) : List String :=
  match kind with
  | "text_image" => ["overlay", "text", "position", "loop_seconds"]
  | "bgm" => ["keywords", "volume"]
  | _ => []

def ofJson? (j : Json) : Option (PlanInput Binary64) := do
  let (kind, m) ← j.taggedMembers? "kind" names
  match kind with
  | "source" => some .source
  | "text_image" =>
    some (.textImage (← m.required "overlay" (Json.natural? (pow2 64)))
      (← m.required "text" Json.string?)
      (← m.required "position" (Json.choiceBesideTag? TextPosition.names))
      (← m.required "loop_seconds" Json.number?))
  | "bgm" =>
    some (.music (← m.required "keywords" Json.string?) (← m.required "volume" Json.number?))
  | _ => none

end PlanInput

namespace RenderPlan

def toJson (p : RenderPlan Binary64) : Json :=
  .object [
    ("inputs", .array (p.inputs.map PlanInput.toJson)),
    ("filter_graph", .string p.description),
    ("output_map", .array (p.outputs.map .string)),
    ("duration_hint", .ofOption .ofReal p.cap),
    ("total_duration", .ofReal p.total)]

def ofJson? (j : Json) : Option (RenderPlan Binary64) := do
  let m ← j.members? ["inputs", "filter_graph", "output_map", "duration_hint", "total_duration"]
  some
    { inputs := ← m.required "inputs" (Json.listOf? PlanInput.ofJson?)
      description := ← m.required "filter_graph" Json.string?
      outputs := ← m.required "output_map" (Json.listOf? Json.string?)
      cap := ← m.optional "duration_hint" Json.number?
      total := ← m.required "total_duration" Json.number? }

end RenderPlan

namespace Stage

def toJson (s : Stage String) : Json :=
  .object [
    ("inputs", .array (s.inputs.map .string)),
    ("filters", .array (s.filters.map .string)),
    ("outputs", .array (s.outputs.map .string))]

def ofJson? (j : Json) : Option (Stage String) := do
  let m ← j.members? ["inputs", "filters", "outputs"]
  some
    { inputs := ← m.required "inputs" (Json.listOf? Json.string?)
      filters := ← m.required "filters" (Json.listOf? Json.string?)
      outputs := ← m.required "outputs" (Json.listOf? Json.string?) }

end Stage

end Montage
