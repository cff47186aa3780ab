import Montage.Edit.Basic

/-!
The instants at which edits cut the media.
-/

namespace Montage

variable {α : Type} [Scalar α]

/-- Of neighbours that are equal, the first. -/
def withoutRepeats : List α → List α
  | [] => []
  | [x] => [x]
  | x :: y :: rest =>
    if Scalar.Same x y then withoutRepeats (x :: rest) else x :: withoutRepeats (y :: rest)
termination_by xs => xs.length

/-- Both ends of the window of an edit that cuts. -/
def Edit.ends (e : Edit α) : List α :=
  if e.isOverlay then []
  else match e.span? with
    | none => []
    | some span => [span.start, span.stop]

/-- The positive ends of the cutting edits, rounded to hundredths, ascending, each once. -/
def Edit.boundaries (edits : List (Edit α)) : List α :=
  let points := ((edits.flatMap Edit.ends).filter (0 < ·)).map (Scalar.roundTo · 2)
  withoutRepeats (points.mergeSort Scalar.precedes)

end Montage

/-!
Edits made usable: values in range, windows inside the media, and nothing that acts on nothing.
-/

namespace Montage

variable {α : Type} [Scalar α]

/-- Playback rates that cannot be divided by fall back to normal speed. -/
def effectiveRate (rate : α) : α :=
  if Scalar.isFinite rate ∧ 0 < rate then rate else 1

def unitOr (fallback x : α) : α :=
  if Scalar.isFinite x then Scalar.clamp 0 1 x else fallback

def finiteOr (fallback x : α) : α :=
  if Scalar.isFinite x then x else fallback

/-- A positive scale and finite numbers; the crop is left alone. -/
def Transform.sanitized (t : Transform α) : Transform α :=
  { t with
    scale := if Scalar.isFinite t.scale ∧ 0 < t.scale then t.scale else 1
    x := finiteOr 0 t.x
    y := finiteOr 0 t.y
    rotate := finiteOr 0 t.rotate }

namespace Edit

/-- The edit with its values brought into range. -/
def sanitized : Edit α → Edit α
  | speed span rate => speed span (effectiveRate rate)
  | volume span level => volume span (unitOr 1 level)
  | transform span change => transform span change.sanitized
  | music keywords level => music keywords (unitOr defaultMusicVolume level)
  | e => e

/-- The window from zero to `limit`; with no positive limit there is only the lower bound. -/
def clampedSpan (limit : α) (span : Span α) : Span α :=
  let start := Scalar.max span.start 0
  let stop := Scalar.max span.stop 0
  if 0 < limit then ⟨Scalar.min start limit, Scalar.min stop limit⟩ else ⟨start, stop⟩

/-- A window without length. A split is a mark, so it may have none, but not run backwards. -/
def IsEmptyOn (e : Edit α) (span : Span α) : Prop :=
  if e.kind = .split then span.stop < span.start else span.stop ≤ span.start

instance (e : Edit α) (span : Span α) : Decidable (e.IsEmptyOn span) :=
  inferInstanceAs (Decidable
    (if e.kind = .split then span.stop < span.start else span.stop ≤ span.start))

/-- The usable form of an edit for media of length `limit`, if it has one. -/
def normal? (limit : α) (e : Edit α) : Option (Edit α) :=
  match e.span? with
  | none => some e.sanitized
  | some span =>
    if Scalar.isFinite span.start ∧ Scalar.isFinite span.stop then
      let clamped := clampedSpan limit span
      if e.IsEmptyOn clamped then none else some (e.sanitized.withSpan clamped)
    else none

/-- The usable edits, in order. -/
def normalized (limit : α) (edits : List (Edit α)) : List (Edit α) :=
  edits.filterMap (normal? limit)

end Edit

end Montage
