import Montage.Clip.Basic

/-!
The timeline that is previewed and rendered.
-/

namespace Montage

inductive OverlayContent
  | text (words : String) (position : TextPosition)
  | fade (direction : FadeDirection)
  deriving DecidableEq

/-- A text or a fade with its media window and the output window it shows in. -/
structure Overlay (α : Type) where
  span : Span α
  shown : Span α
  content : OverlayContent
  deriving DecidableEq

structure Music (α : Type) where
  keywords : String
  volume : α
  deriving DecidableEq

structure Timeline (α : Type) where
  clips : List (Clip α)
  total : α
  texts : List (Overlay α)
  fades : List (Overlay α)
  music : List (Music α)
  deriving DecidableEq

end Montage

/-!
The media clock and the output clock, mapped onto each other through the clips.
-/

namespace Montage.Clip

variable {α : Type} [Scalar α]

/-- How far outside a clip an instant may lie and still be looked up in it. -/
def lookupSlack : α :=
  0.05

/-- The first clip whose window holds the instant, or else the first whose widened window does. -/
def locate? (windowOf : Clip α → Span α) (clips : List (Clip α)) (t : α) : Option (Clip α) :=
  (clips.find? fun c => decide ((windowOf c).Holds t)).or
    (clips.find? fun c => decide ((windowOf c).Reaches lookupSlack t))

/-- The output instant at which a media instant shows. One that lies in no clip is unchanged. -/
def mediaToTimeline (clips : List (Clip α)) (t : α) : α :=
  match locate? (·.span) clips t with
  | some c => c.timelineStart + Scalar.max (t - c.span.start) 0 / effectiveRate c.rate
  | none => t

/-- The media instant shown at an output instant. One that lies in no window is unchanged. -/
def timelineToMedia (clips : List (Clip α)) (t : α) : α :=
  match locate? window clips t with
  | some c => c.span.start + Scalar.max (t - c.timelineStart) 0 * effectiveRate c.rate
  | none => t

/-- How much source material the clips use. -/
def mediaDuration (clips : List (Clip α)) : α :=
  Scalar.sum (clips.map (·.duration))

end Montage.Clip
