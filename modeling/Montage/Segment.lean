import Montage.Number.Decimal
import Montage.Span

/-!
Analysed slices of the source media.
-/

namespace Montage

/-- What was found in a slice. Motion and speech run from none at 0 to all the time at 1. -/
structure Tags (α : Type) where
  hasFace : Bool
  hasAction : Bool
  hasDialogue : Bool
  motion : α
  speech : α
  deriving DecidableEq

structure Segment (α : Type) where
  id : String
  span : Span α
  duration : α
  energy : α
  tags : Tags α
  deriving DecidableEq

variable {α : Type} [Scalar α]

def Tags.none : Tags α :=
  ⟨false, false, false, 0, 0⟩

/-- The name of a window: both ends with two decimals. -/
def Span.id (span : Span α) : String :=
  Decimal.fixed 2 (Scalar.reading span.start) ++ "-" ++ Decimal.fixed 2 (Scalar.reading span.stop)

/-- A slice named for its window, with its shares brought between 0 and 1. -/
def Segment.new (span : Span α) (energy : α) (tags : Tags α) : Segment α where
  id := span.id
  span := span
  duration := Scalar.max (span.stop - span.start) 0
  energy := Scalar.clampUnit energy
  tags :=
    { tags with
      motion := Scalar.clampUnit tags.motion
      speech := Scalar.clampUnit tags.speech }

end Montage
