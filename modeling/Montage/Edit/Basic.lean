import Montage.Span

/-!
Edits: instructions over stretches of the source media, and background music for the whole.
-/

namespace Montage

/-- Where a caption stands in the frame. -/
inductive TextPosition
  | top
  | center
  | bottom
  deriving DecidableEq

inductive FadeDirection
  | fadeIn
  | fadeOut
  deriving DecidableEq

def FadeDirection.name : FadeDirection → String
  | fadeIn => "in"
  | fadeOut => "out"

/-- A window of the frame, in fractions of its width and height. -/
structure CropRect (α : Type) where
  x : α
  y : α
  width : α
  height : α
  deriving DecidableEq

/-- A change of picture that keeps the frame. The shift `x`, `y` is a fraction of the frame and
shows only when `scale` zooms in; `rotate` is in degrees. -/
structure Transform (α : Type) where
  scale : α
  x : α
  y : α
  rotate : α
  flipX : Bool
  flipY : Bool
  crop : Option (CropRect α)
  deriving DecidableEq

namespace Transform

variable {α : Type} [Scalar α]

def identity : Transform α :=
  ⟨1, 0, 0, 0, false, false, none⟩

/-- Changes nothing. -/
def IsIdentity (t : Transform α) : Prop :=
  Scalar.Same t.scale 1 ∧ Scalar.Same t.x 0 ∧ Scalar.Same t.y 0 ∧ Scalar.Same t.rotate 0 ∧
    t.flipX = false ∧ t.flipY = false ∧ t.crop.isNone

instance (t : Transform α) : Decidable t.IsIdentity :=
  inferInstanceAs (Decidable (_ ∧ _))

end Transform

inductive Edit (α : Type)
  | split (span : Span α)
  | speed (span : Span α) (rate : α)
  | delete (span : Span α)
  | text (span : Span α) (words : String) (position : TextPosition)
  | fade (span : Span α) (direction : FadeDirection)
  | volume (span : Span α) (level : α)
  | transform (span : Span α) (change : Transform α)
  | music (keywords : String) (level : α)
  deriving DecidableEq

inductive EditKind
  | split
  | speed
  | delete
  | text
  | fade
  | volume
  | transform
  | music
  deriving DecidableEq

def EditKind.name : EditKind → String
  | split => "split"
  | speed => "speed"
  | delete => "delete"
  | text => "text"
  | fade => "fade"
  | volume => "volume"
  | transform => "transform"
  | music => "bgm"

/-- The share of background music in the mix when none is given. -/
def defaultMusicVolume {α : Type} [Scalar α] : α :=
  0.3

namespace Edit

variable {α : Type}

def kind : Edit α → EditKind
  | split .. => .split
  | speed .. => .speed
  | delete .. => .delete
  | text .. => .text
  | fade .. => .fade
  | volume .. => .volume
  | transform .. => .transform
  | music .. => .music

/-- The media window of an edit; music has none. -/
def span? : Edit α → Option (Span α)
  | split span => some span
  | speed span _ => some span
  | delete span => some span
  | text span .. => some span
  | fade span _ => some span
  | volume span _ => some span
  | transform span _ => some span
  | music .. => none

def withSpan (span : Span α) : Edit α → Edit α
  | .split _ => .split span
  | .speed _ rate => .speed span rate
  | .delete _ => .delete span
  | .text _ words position => .text span words position
  | .fade _ direction => .fade span direction
  | .volume _ level => .volume span level
  | .transform _ change => .transform span change
  | .music keywords level => .music keywords level

/-- Texts and fades lie over the picture and never cut it. -/
def isOverlay (e : Edit α) : Bool :=
  e.kind = .text || e.kind = .fade

@[simp] theorem kind_withSpan (span : Span α) (e : Edit α) : (e.withSpan span).kind = e.kind := by
  cases e <;> rfl

end Edit

end Montage
