import Montage.Segment

/-!
Picking segments for a target length: anchors first, then by score until the target is met.
-/

namespace Montage

inductive Style
  | fast
  | slow
  | balanced
  deriving DecidableEq

inductive Focus
  | none
  | face
  | action
  deriving DecidableEq

inductive Template
  | general
  | vlog
  | sport
  | story
  deriving DecidableEq

structure Intent (α : Type) where
  target : α
  style : Style
  focus : Focus
  template : Template
  keepStart : Bool
  keepEnd : Bool
  deriving DecidableEq

/-- A picked segment and why it was picked. -/
structure Pick (α : Type) extends Segment α where
  reason : String
  deriving DecidableEq

structure Selection (α : Type) where
  picks : List (Pick α)
  total : α
  target : α
  deriving DecidableEq

variable {α : Type} [Scalar α]

def Intent.default : Intent α :=
  ⟨30.0, .balanced, .none, .general, true, false⟩

def Selection.empty : Selection α :=
  ⟨[], 0, 0⟩

namespace Segment

def bonus (flag : Bool) (value : α) : α :=
  if flag then value else 0

def styleScore (s : Segment α) : Style → α
  | .fast => s.energy
  | .slow => 1 - s.energy
  | .balanced => 0.5 + s.energy * 0.5

def focusScore (s : Segment α) : Focus → α
  | .face => bonus s.tags.hasFace 0.3
  | .action => bonus s.tags.hasAction 0.3
  | .none => 0

def templateScore (s : Segment α) : Template → α
  | .vlog => bonus s.tags.hasFace 0.25 + s.tags.speech * 0.2
  | .sport => bonus s.tags.hasAction 0.3 + s.tags.motion * 0.25
  | .story => bonus s.tags.hasDialogue 0.2 + (1 - s.energy) * 0.2
  | .general => 0.1

/-- What ranks a segment. -/
def score (s : Segment α) (intent : Intent α) : α :=
  s.styleScore intent.style + s.focusScore intent.focus + s.templateScore intent.template

/-- The rules that speak for a segment, in words. -/
def reasons (s : Segment α) (intent : Intent α) : List String :=
  let rules : List (Bool × String) := [
    (intent.style = .fast && decide ((0.7 : α) < s.energy), "high-energy segment"),
    (intent.style = .slow && decide (s.energy < (0.45 : α)), "low-energy segment"),
    (intent.focus = .face && s.tags.hasFace, "contains people"),
    (intent.focus = .action && s.tags.hasAction, "clear action"),
    (intent.template = .vlog && s.tags.hasDialogue, "dense dialogue"),
    (intent.template = .sport && decide ((0.6 : α) < s.tags.motion), "high motion intensity"),
    (intent.template = .story && s.tags.hasDialogue, "narrative beat"),
    (decide (intent.focus = .none), "balanced coverage")]
  (rules.filter (·.1)).map (·.2)

def reason (s : Segment α) (intent : Intent α) : String :=
  match s.reasons intent with
  | [] => "best overall score"
  | parts => " · ".intercalate parts

end Segment

namespace Selection

/-- Whether a pick with this id is there already. -/
def taken (picks : List (Pick α)) (id : String) : Bool :=
  picks.any (·.id = id)

def reserve (reason : String) (segment : Option (Segment α)) (picks : List (Pick α)) :
    List (Pick α) :=
  match segment with
  | none => picks
  | some s => if taken picks s.id then picks else picks ++ [⟨s, reason⟩]

/-- The segments kept whatever their score: the first, and the last of at least two. -/
def anchors (segments : List (Segment α)) (intent : Intent α) : List (Pick α) :=
  let opening := if intent.keepStart then reserve "kept opening" segments.head? [] else []
  if intent.keepEnd ∧ 1 < segments.length then
    reserve "kept ending" segments.getLast? opening
  else opening

/-- The best score first; equal scores keep their order. -/
def ranked (segments : List (Segment α)) (intent : Intent α) : List (Segment α) :=
  segments.mergeSort fun a b => Scalar.precedes (b.score intent) (a.score intent)

/-- Takes segments in order until the target is met, skipping ids that are taken. -/
def fill (intent : Intent α) (target : α) :
    List (Segment α) → α → List (Pick α) → List (Pick α)
  | [], _, picks => picks
  | s :: rest, total, picks =>
    if target ≤ total then picks
    else if taken picks s.id then fill intent target rest total picks
    else fill intent target rest (total + s.duration) (picks ++ [⟨s, s.reason intent⟩])

/-- Picks in the order of the media, whatever order they were chosen in. -/
def ofSegments (segments : List (Segment α)) (intent : Intent α) : Selection α :=
  let length := Scalar.maximum 0 (segments.map (·.span.stop))
  let target := Scalar.max (Scalar.min intent.target length) 0
  let kept := anchors segments intent
  let chosen :=
    fill intent target (ranked segments intent) (Scalar.sum (kept.map (·.duration))) kept
  let picks := chosen.mergeSort fun a b => Scalar.precedes a.span.start b.span.start
  ⟨picks, Scalar.sum (picks.map (·.duration)), target⟩

end Selection

end Montage
