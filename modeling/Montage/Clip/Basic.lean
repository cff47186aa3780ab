import Montage.Edit.Normal
import Montage.Selection

/-!
Retained spans of the source and their place on the output clock.
-/

namespace Montage

structure Clip (α : Type) where
  id : String
  span : Span α
  duration : α
  rate : α
  timelineStart : α
  displayDuration : α
  volume : α
  transform : Option (Transform α)
  edit : Option (Edit α)
  reason : Option String
  deriving DecidableEq

namespace Clip

variable {α : Type} [Scalar α]

/-- An untouched span of the source at normal speed. -/
def source (id : String) (span : Span α) : Clip α :=
  let duration := Scalar.max (span.stop - span.start) 0
  ⟨id, span, duration, 1, 0, duration, 1, none, none, none⟩

def ofPick (pick : Pick α) : Clip α :=
  { source pick.id pick.span with
    reason := if pick.reason.isEmpty then none else some pick.reason }

/-- The stretch of the output clock in which the clip shows. -/
def window (c : Clip α) : Span α :=
  ⟨c.timelineStart, c.timelineStart + c.displayDuration⟩

end Clip

end Montage

/-!
A change of tempo as steps that each at most double or halve it.
-/

namespace Montage.Tempo

variable {α : Type} [Scalar α]

/-- Doubles, or halves, as long as the rest is out of the band, and then the rest to four
decimals. -/
def stepsFrom : Nat → α → List α
  | 0, rest => [Scalar.roundTo rest 4]
  | fuel + 1, rest =>
    if 2.0 < rest then 2.0 :: stepsFrom fuel (rest / 2.0)
    else if rest < 0.5 then 0.5 :: stepsFrom fuel (rest / 0.5)
    else [Scalar.roundTo rest 4]

/-- The steps between one half and two that multiply to a playback rate. -/
def steps (rate : α) : List α :=
  let rest := effectiveRate rate
  stepsFrom (Scalar.reading rest).octaves rest

end Montage.Tempo

/-!
Laying clips end to end on the output clock.
-/

namespace Montage.Clip

variable {α : Type} [Scalar α]

/-- The clips from `cursor` on, and where they end. -/
def placeFrom (cursor : α) : List (Clip α) → List (Clip α) × α
  | [] => ([], cursor)
  | c :: rest =>
    let shown := c.duration / effectiveRate c.rate
    let (placed, total) := placeFrom (cursor + shown) rest
    ({ c with displayDuration := shown, timelineStart := cursor } :: placed, total)

/-- The clips in media order, end to end from zero, and their total length. -/
def place (clips : List (Clip α)) : List (Clip α) × α :=
  placeFrom 0 (clips.mergeSort fun a b => Scalar.precedes a.span.start b.span.start)

end Montage.Clip

/-!
Cutting clips in two.
-/

namespace Montage.Clip

variable {α : Type} [Scalar α]

/-- The instant lies inside the clip by more than `margin` on both sides. -/
def Splits (margin : α) (c : Clip α) (point : α) : Prop :=
  c.span.start + margin < point ∧ point < c.span.stop - margin

instance (margin : α) (c : Clip α) (point : α) : Decidable (Splits margin c point) :=
  inferInstanceAs (Decidable (_ ∧ _))

/-- The part of the clip over `span`, named for it. -/
def piece (c : Clip α) (span : Span α) : Clip α :=
  { c with
    id := "split-" ++ span.id
    span := span
    duration := span.stop - span.start }

def splitAt (margin point : α) (c : Clip α) : List (Clip α) :=
  if c.Splits margin point then
    [c.piece ⟨c.span.start, point⟩, c.piece ⟨point, c.span.stop⟩]
  else [c]

/-- Every clip cut at every point, each point applied to the clips that the points before left. -/
def splitAll (margin : α) (points : List α) (clips : List (Clip α)) : List (Clip α) :=
  points.foldl (fun clips point => clips.flatMap (splitAt margin point)) clips

end Montage.Clip

/-!
Speed, volume and picture of a clip, from the first edit of each kind that covers it.
-/

namespace Montage.Clip

variable {α : Type} [Scalar α]

/-- How far an edit may miss the ends of a clip and still belong to it. -/
def attributeSlack : α :=
  0.2

/-- The first edit of a kind that covers the clip. -/
def covering? (kind : EditKind) (edits : List (Edit α)) (c : Clip α) : Option (Edit α) :=
  edits.find? fun e => e.kind = kind &&
    match e.span? with
    | some span => decide (span.Covers attributeSlack c.span)
    | none => false

/-- The edit that the clip shows: a change of speed before a split. -/
def shownEdit? (edits : List (Edit α)) (c : Clip α) : Option (Edit α) :=
  (covering? .speed edits c).or (covering? .split edits c)

def rateOf (edits : List (Edit α)) (c : Clip α) : α :=
  match shownEdit? edits c with
  | some (.speed _ rate) => effectiveRate rate
  | _ => 1

def volumeOf (edits : List (Edit α)) (c : Clip α) : α :=
  match covering? .volume edits c with
  | some (.volume _ level) => level
  | _ => 1

/-- A transform that changes nothing counts as none. -/
def transformOf (edits : List (Edit α)) (c : Clip α) : Option (Transform α) :=
  match covering? .transform edits c with
  | some (.transform _ change) => if change.IsIdentity then none else some change
  | _ => none

def attach (edits : List (Edit α)) (c : Clip α) : Clip α :=
  { c with
    rate := rateOf edits c
    edit := shownEdit? edits c
    volume := volumeOf edits c
    transform := transformOf edits c }

end Montage.Clip
