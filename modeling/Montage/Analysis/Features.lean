import Montage.Random.Stream
import Montage.Segment

/-!
What is known of a media file: its segments, an energy sample at the middle of each, and their mean
energy.
-/

namespace Montage

/-- An energy sample at an instant. -/
structure Keyframe (α : Type) where
  time : α
  energy : α
  deriving DecidableEq

structure Features (α : Type) where
  duration : α
  segmentCount : Nat
  segments : List (Segment α)
  keyframes : List (Keyframe α)
  rhythm : α
  deriving DecidableEq

variable {α : Type} [Scalar α]

/-- The energy of a segment at its middle, to hundredths of a second. -/
def Segment.keyframe (s : Segment α) : Keyframe α :=
  ⟨Scalar.roundTo (s.span.start + s.duration / 2.0) 2, s.energy⟩

namespace Features

/-- The mean energy to hundredths; none of nothing. -/
def rhythmOf (segments : List (Segment α)) : α :=
  if segments.isEmpty then 0
  else Scalar.roundTo (Scalar.sum (segments.map (·.energy)) / (segments.length : α)) 2

def ofSegments (duration : α) (segments : List (Segment α)) : Features α :=
  ⟨duration, segments.length, segments, segments.map Segment.keyframe, rhythmOf segments⟩

end Features

end Montage

/-!
Segments made up for media that was never analysed: equal windows over the whole length, with shares
and flags taken from a source of draws.
-/

namespace Montage.Placeholder

variable {α : Type} [Scalar α]

/-- One window for every six seconds, at least 6 and at most 12. -/
def count (duration : α) : Nat :=
  6 + ((List.range' 7 6).filter fun (k : Nat) => (k : α) ≤ Scalar.nearest (duration / 6.0)).length

/-- The windows end to end; the last one stops exactly at the end of the media. -/
def window (duration : α) (count index : Nat) : Span α :=
  let length := duration / (count : α)
  { start := (index : α) * length
    stop := if index + 1 = count then duration else ((index + 1 : Nat) : α) * length }

/-- A share of at least `low`, to hundredths, for a draw between 0 and 1. -/
def share (low range draw : α) : α :=
  Scalar.roundTo (low + draw * range) 2

/-- The segment over a window, from six draws. -/
def segment (draw : Nat → α) (span : Span α) : Segment α :=
  .new span (share 0.3 0.7 (draw 0))
    { motion := share 0.2 0.8 (draw 1)
      speech := share 0.2 0.8 (draw 2)
      hasFace := decide (0.6 < draw 3)
      hasAction := decide (0.55 < draw 4)
      hasDialogue := decide (0.5 < draw 5) }

/-- The made-up segments of media of a known length; none when the length is unknown. -/
def segments (draw : Nat → α) (duration : α) : List (Segment α) :=
  if Scalar.isFinite duration ∧ 0 < duration then
    (List.range (count duration)).map fun index =>
      segment (fun k => draw (6 * index + k)) (window duration (count duration) index)
  else []

end Montage.Placeholder

/-!
Placeholder segments that depend only on which file is meant: its name, size and length are the
seed.
-/

namespace Montage.Placeholder

/-- The 16-bit units of a text: one for each character, two beyond the first 65536. -/
def units16 (c : Char) : List Nat :=
  if c.toNat < 0x10000 then [c.toNat]
  else [0xD800 + (c.toNat - 0x10000) / 1024, 0xDC00 + (c.toNat - 0x10000) % 1024]

/-- A hash of 32 bits over the units of a text, read as a signed number. -/
def hash (text : String) : Int :=
  let step (h unit : Nat) : Nat := (h * 31 + unit) % pow2 32
  let total : Nat := (text.toList.flatMap units16).foldl step 0
  Int.bmod total (pow2 32)

/-- The seed of a file: the size of the hash of its name, size and length. -/
def seed (name : String) (size : Nat) (duration : Binary64) : UInt64 :=
  let identity := name ++ "-" ++ Decimal.natural size ++ "-" ++ Scalar.shortest duration
  UInt64.ofNat (hash identity).natAbs

def segmentsOf (name : String) (size : Nat) (duration : Binary64) : List (Segment Binary64) :=
  segments (Random.draw (seed name size duration)) duration

end Montage.Placeholder
