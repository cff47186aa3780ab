import Montage.Edit.Basic
import Montage.Number.Decimal

/-!
Escaping of values. A value passes two readers: one cuts a graph into filters, the next cuts a
filter into options. Each takes the character after a backslash as it is.
-/

namespace Montage.Caption

def escape (special : Char → Bool) (cs : List Char) : List Char :=
  cs.flatMap fun c => if special c then ['\\', c] else [c]

def isOptionSpecial (c : Char) : Bool :=
  c = '\\' || c = '\x27' || c = ':'

def isGraphSpecial (c : Char) : Bool :=
  c = '\\' || c = '\x27' || c = '[' || c = ']' || c = ',' || c = ';'

/-- A value as an option of a filter holds it. -/
def escapeOption (value : String) : String :=
  String.ofList (escape isOptionSpecial value.toList)

/-- A value that is already an option, as a graph holds it. -/
def escapeGraph (value : String) : String :=
  String.ofList (escape isGraphSpecial value.toList)

def escapeText (value : String) : String :=
  escapeGraph (escapeOption value)

end Montage.Caption

/-!
Where a caption stands in a frame, in whole pixels.
-/

namespace Montage

structure Layout where
  fontSize : Nat
  padding : Nat
  boxHeight : Nat
  boxTop : Nat
  borderWidth : Nat
  deriving DecidableEq

namespace Layout

/-- A share of a length in hundredths, to the nearest pixel. -/
def percent (share length : Nat) : Nat :=
  Decimal.roundDiv .up (share * length) 100

/-- The distance of a caption from the nearer edge. -/
def margin (height : Nat) : Nat :=
  percent 8 height

def boxTopOf (position : TextPosition) (height boxHeight : Nat) : Nat :=
  match position with
  | .top => margin height
  | .center => (height - boxHeight) / 2
  | .bottom => height - (boxHeight + margin height)

/-- The caption box of a frame: one line of text with a quarter of its size above and below. -/
def ofHeight (position : TextPosition) (height : Nat) : Layout :=
  let fontSize := Nat.max (percent 4 height) 1
  let padding := percent 25 fontSize
  let boxHeight := fontSize + 2 * padding
  { fontSize := fontSize
    padding := padding
    boxHeight := boxHeight
    boxTop := boxTopOf position height boxHeight
    borderWidth := Nat.max (percent 8 fontSize) 2 }

/-- The top of the letters. -/
def textTop (l : Layout) : Nat :=
  l.boxTop + l.padding

end Layout

end Montage

/-!
The transparent full-frame image of a caption: its canvas and the filter that draws it.
-/

namespace Montage.Caption

def canvas (width height : Nat) : String :=
  "color=c=black@0.0:s=" ++ Decimal.natural width ++ "x" ++ Decimal.natural height ++ ",format=rgba"

/-- The options of the drawing filter, each as it is written. -/
def options (words : String) (position : TextPosition) (height : Nat) (font : Option String) :
    List String :=
  let layout := Layout.ofHeight position height
  ["text=" ++ escapeText words, "expansion=none"] ++
    (font.map fun font => "fontfile=" ++ escapeText font).toList ++
    ["fontsize=" ++ Decimal.natural layout.fontSize,
      "fontcolor=white",
      "borderw=" ++ Decimal.natural layout.borderWidth,
      "bordercolor=black@0.9",
      "x=(w-text_w)/2",
      "y=" ++ Decimal.natural layout.textTop]

/-- One centred white caption with a dark outline. -/
def filter (words : String) (position : TextPosition) (height : Nat) (font : Option String) :
    String :=
  "drawtext=" ++ ":".intercalate (options words position height font)

end Montage.Caption
