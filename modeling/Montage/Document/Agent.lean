import Montage.Agent.Reply

/-!
Replies and requests as JSON.
-/

namespace Montage

namespace Event

def toJson (e : Event Binary64) : Json :=
  .object [
    ("label", .string e.label),
    ("start", .ofReal e.span.start),
    ("end", .ofReal e.span.stop),
    ("confidence", .ofReal e.confidence)]

def ofJson? (j : Json) : Option (Event Binary64) := do
  let m ← j.members? ["label", "start", "end", "confidence"]
  some
    { label := ← m.required "label" Json.string?
      span := ← Edit.spanOf? m
      confidence := ← m.required "confidence" Json.number? }

end Event

namespace Step

def toJson (s : Step) : Json :=
  .object [("thought", .string s.thought), ("action", .string s.action),
    ("observation", .string s.observation)]

def ofJson? (j : Json) : Option Step := do
  let m ← j.members? ["thought", "action", "observation"]
  some
    { thought := ← m.withDefault "thought" "" Json.string?
      action := ← m.withDefault "action" "" Json.string?
      observation := ← m.withDefault "observation" "" Json.string? }

end Step

namespace Request

def toJson (r : Request Binary64) : Json :=
  .object [("durationSeconds", .ofReal r.duration),
    ("existingSegments", .array (r.existing.map Segment.toJson))]

def ofJson? (j : Json) : Option (Request Binary64) := do
  let m ← j.members? ["durationSeconds", "existingSegments"]
  some
    { duration := ← m.withDefault "durationSeconds" 0 Json.number?
      existing := ← m.withDefault "existingSegments" [] (Json.listOf? Segment.ofJson?) }

end Request

namespace Reply

/-- The fields of the features stand beside those of the reply. -/
def toJson (r : Reply Binary64) : Json :=
  .object (r.features.fields ++ [
    ("events", .array (r.events.map Event.toJson)),
    ("edits", .array (r.edits.map Edit.toJson)),
    ("summary", .ofOption .string r.summary),
    ("steps", .array (r.steps.map Step.toJson))])

def ofJson? (j : Json) : Option (Reply Binary64) := do
  let m ← j.namedMembers?
  some
    { features := ← Features.ofMembers? m
      events := ← m.required "events" (Json.listOf? Event.ofJson?)
      edits := ← m.required "edits" (Json.listOf? Edit.ofJson?)
      summary := ← m.optional "summary" Json.string?
      steps := ← m.required "steps" (Json.listOf? Step.ofJson?) }

end Reply

end Montage
