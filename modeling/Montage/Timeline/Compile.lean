import Montage.Clip.Basic
import Montage.Edit.Normal
import Montage.Timeline.Basic

/-!
From a selection and a list of edits to a timeline. The steps run in a fixed order: bring edits into
range, cut at their ends, delete, attach attributes, place, and project the overlays. Compiling
never fails; an edit that cannot be used is dropped.
-/

namespace Montage.Timeline

variable {α : Type} [Scalar α]

/-- How far a delete may miss the ends of a clip that it removes. -/
def deleteSlack : α :=
  0.02

/-- The split margin: fine when something is deleted, coarse otherwise. -/
def splitMargin (edits : List (Edit α)) : α :=
  if edits.any (·.kind = .delete) then 0.02 else 0.1

/-- The length of the media: as given, or the last end of the selection when it is unknown. -/
def mediaLimit (picks : List (Pick α)) (duration : α) : α :=
  if Scalar.isFinite duration ∧ 0 < duration then duration
  else Scalar.maximum 0 (picks.map (·.span.stop))

/-- The selection as clips; without one, the whole media as one clip. -/
def baseClips (picks : List (Pick α)) (limit : α) : List (Clip α) :=
  if picks.isEmpty then
    if 0 < limit then [.source "base-clip" ⟨0, limit⟩] else []
  else (picks.map Clip.ofPick).filter (0 < ·.duration)

/-- Some delete covers the clip. -/
def deleted (edits : List (Edit α)) (c : Clip α) : Bool :=
  edits.any fun
    | .delete span => decide (span.Covers deleteSlack c.span)
    | _ => false

def overlay? (clips : List (Clip α)) (e : Edit α) : Option (Overlay α) :=
  let project (span : Span α) : Span α :=
    ⟨Clip.mediaToTimeline clips span.start, Clip.mediaToTimeline clips span.stop⟩
  match e with
  | .text span words position => some ⟨span, project span, .text words position⟩
  | .fade span direction => some ⟨span, project span, .fade direction⟩
  | _ => none

def music? : Edit α → Option (Music α)
  | .music keywords level => some ⟨keywords, level⟩
  | _ => none

/-- The clips that remain after cutting and deleting, with their attributes, not yet placed. -/
def survivors (edits : List (Edit α)) (clips : List (Clip α)) : List (Clip α) :=
  let pieces := Clip.splitAll (splitMargin edits) (Edit.boundaries edits) clips
  (pieces.filter (!deleted edits ·)).map (Clip.attach edits)

/-- The timeline of usable edits over clips. -/
def ofClips (edits : List (Edit α)) (clips : List (Clip α)) : Timeline α :=
  let (placed, total) := Clip.place (survivors edits clips)
  { clips := placed
    total := total
    texts := (edits.filter (·.kind = .text)).filterMap (overlay? placed)
    fades := (edits.filter (·.kind = .fade)).filterMap (overlay? placed)
    music := edits.filterMap music? }

def compile (picks : List (Pick α)) (edits : List (Edit α)) (duration : α) : Timeline α :=
  let limit := mediaLimit picks duration
  ofClips (Edit.normalized limit edits) (baseClips picks limit)

end Montage.Timeline
