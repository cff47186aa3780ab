import Montage.Edit.Basic
import Montage.Number.Decimal

/-!
The filters that a plan is made of, and how each is written. No filter holds text that a user wrote.
-/

namespace Montage

inductive Filter (α : Type)
  /-- Keeps the pictures of a stretch of the media. -/
  | trim (span : Span α)
  /-- Keeps the sound of a stretch of the media. -/
  | trimSound (span : Span α)
  | resetClock
  | resetSoundClock
  /-- Multiplies the time of every picture. -/
  | stretch (factor : α)
  | tempo (step : α)
  | volume (level : α)
  | squarePixels
  /-- Cuts out a window given in fractions of the frame. -/
  | cropShare (window : CropRect α)
  | scaleTo (width height : Nat)
  /-- Scales both sides and rounds them down to even numbers. -/
  | scaleBy (factor : α)
  /-- Cuts a frame out of the middle, shifted by some pixels. -/
  | cropMiddle (width height : Nat) (right down : α)
  /-- Puts the picture into the middle of a black frame. -/
  | padTo (width height : Nat)
  /-- Turns by some degrees and keeps the frame. -/
  | rotate (degrees : α)
  | flipAcross
  | flipOver
  /-- Joins the picture and sound of some clips, one after another. -/
  | concat (clips : Nat)
  | fade (direction : FadeDirection) (start length : α)
  | fadeSound (direction : FadeDirection) (start length : α)
  /-- Lays one picture over another during a stretch of the output. -/
  | overlay (shown : Span α)
  | mix
  | pass
  | passSound
  deriving DecidableEq

namespace Filter

variable {α : Type} [Scalar α]

def printSpan (span : Span α) : String :=
  "start=" ++ Scalar.seconds span.start ++ ":end=" ++ Scalar.seconds span.stop

def printSize (width height : Nat) : String :=
  Decimal.natural width ++ ":" ++ Decimal.natural height

def printFade (direction : FadeDirection) (start length : α) : String :=
  "fade=t=" ++ direction.name ++ ":st=" ++ Scalar.fixed 3 start ++ ":d=" ++ Scalar.fixed 3 length

/-- One coordinate of a frame cut out of the middle. -/
def printMiddle (side : String) (size : Nat) (shift : α) : String :=
  "(" ++ side ++ "-" ++ Decimal.natural size ++ ")/2+(" ++ Scalar.shortest shift ++ ")"

def print : Filter α → String
  | trim span => "trim=" ++ printSpan span
  | trimSound span => "atrim=" ++ printSpan span
  | resetClock => "setpts=PTS-STARTPTS"
  | resetSoundClock => "asetpts=PTS-STARTPTS"
  | stretch factor => "setpts=" ++ Scalar.fixed 4 factor ++ "*PTS"
  | tempo step => "atempo=" ++ Scalar.shortest step
  | volume level => "volume=" ++ Scalar.fixed 3 level
  | squarePixels => "setsar=1"
  | cropShare window =>
    "crop=iw*" ++ Scalar.fixed 4 window.width ++ ":ih*" ++ Scalar.fixed 4 window.height ++
      ":iw*" ++ Scalar.fixed 4 window.x ++ ":ih*" ++ Scalar.fixed 4 window.y
  | scaleTo width height => "scale=" ++ printSize width height
  | scaleBy factor =>
    "scale=trunc(iw*" ++ Scalar.fixed 4 factor ++ "/2)*2:trunc(ih*" ++ Scalar.fixed 4 factor ++
      "/2)*2"
  | cropMiddle width height right down =>
    "crop=" ++ printSize width height ++ ":" ++ printMiddle "iw" width right ++ ":" ++
      printMiddle "ih" height down
  | padTo width height => "pad=" ++ printSize width height ++ ":(ow-iw)/2:(oh-ih)/2:color=black"
  | rotate degrees => "rotate=" ++ Scalar.fixed 4 degrees ++ "*PI/180:ow=iw:oh=ih:c=black"
  | flipAcross => "hflip"
  | flipOver => "vflip"
  | concat clips => "concat=n=" ++ Decimal.natural clips ++ ":v=1:a=1"
  | fade direction start length => printFade direction start length
  | fadeSound direction start length => "a" ++ printFade direction start length
  | overlay shown =>
    "overlay=0:0:enable='between(t," ++ Scalar.fixed 3 shown.start ++ "," ++
      Scalar.fixed 3 shown.stop ++ ")'"
  | mix => "amix=inputs=2:duration=first:dropout_transition=0:normalize=0"
  | pass => "null"
  | passSound => "anull"

end Filter

end Montage

/-!
The filters of a change of picture. The frame keeps its size, so that clips can still be joined.
-/

namespace Montage.Transform

variable {α : Type} [Scalar α]

/-- The crop brought inside the frame; nothing when its size is not a number. -/
def cropWindow? (crop : CropRect α) : Option (CropRect α) :=
  let width := Scalar.clamp 0.01 1 crop.width
  let height := Scalar.clamp 0.01 1 crop.height
  if 0 ≤ 1 - width ∧ 0 ≤ 1 - height then
    some ⟨Scalar.clamp 0 (1 - width) crop.x, Scalar.clamp 0 (1 - height) crop.y, width, height⟩
  else none

/-- A shift of a zoomed picture in whole pixels. -/
def shift (share : α) (size : Nat) : α :=
  Scalar.roundTo (share * (size : α)) 0

def zoomFilters (t : Transform α) (width height : Nat) : List (Filter α) :=
  if 1 < t.scale then
    [.scaleBy t.scale, .cropMiddle width height (shift t.x width) (shift t.y height)]
  else if t.scale < 1 then [.scaleBy t.scale, .padTo width height]
  else []

def turnFilters (t : Transform α) : List (Filter α) :=
  (if Scalar.Same t.rotate 0 then [] else [.rotate t.rotate]) ++
    (if t.flipX then [.flipAcross] else []) ++ (if t.flipY then [.flipOver] else [])

/-- The filters for frames of the given size; nothing when the crop has no size. -/
def filters? (t : Transform α) (width height : Nat) : Option (List (Filter α)) :=
  if t.IsIdentity then some []
  else
    let rest := t.zoomFilters width height ++ t.turnFilters
    match t.crop with
    | none => some rest
    | some crop =>
      (cropWindow? crop).map fun window => .cropShare window :: .scaleTo width height :: rest

end Montage.Transform
