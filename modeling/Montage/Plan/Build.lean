import Montage.Clip.Basic
import Montage.Filter.Basic
import Montage.Plan.Basic
import Montage.Text.Classes

/-!
The stages of a plan, in order: picture and sound of every clip, their concatenation, the fades, the
texts, the music, and a last stage for each output.
-/

namespace Montage

variable {α : Type} [Scalar α]

namespace Clip

/-- The picture of a clip: cut out, brought to speed, transformed. Squared pixels let it be
joined. -/
def pictureStage (index : Nat) (c : Clip α) (changes : List (Filter α)) : Stage (Filter α) :=
  { inputs := ["0:v"]
    filters := [Filter.trim c.span, .resetClock, .stretch (1 / effectiveRate c.rate)] ++ changes ++
      [.squarePixels]
    outputs := ["v" ++ Decimal.natural index] }

/-- The filters of the clip's change of picture; nothing when its crop has no size. -/
def pictureFilters? (options : PlanOptions) (c : Clip α) : Option (List (Filter α)) :=
  match c.transform with
  | none => some []
  | some change => change.filters? options.width options.height

/-- The distance from full volume that is no change: the spacing of binary floating point at one. -/
def volumeSlack : α :=
  1 / ((4503599627370496 : Nat) : α)

def isFullVolume (level : α) : Bool :=
  !(decide (volumeSlack < level - 1) || decide (volumeSlack < 1 - level))

/-- The sound of a clip: cut out, brought to tempo, at its volume. -/
def soundStage (index : Nat) (c : Clip α) : Stage (Filter α) :=
  { inputs := ["0:a"]
    filters := [Filter.trimSound c.span, .resetSoundClock] ++ (Tempo.steps c.rate).map .tempo ++
      (if isFullVolume c.volume then [] else [.volume (Scalar.clamp 0 1 c.volume)])
    outputs := ["a" ++ Decimal.natural index] }

end Clip

namespace Plan

/-- Picture and sound of every clip; nothing when some crop has no size. -/
def clipStages? (options : PlanOptions) (clips : List (Clip α)) :
    Option (List (Stage (Filter α))) :=
  let pairs := clips.zipIdx.mapM fun (c, index) =>
    (Clip.pictureFilters? options c).map fun changes =>
      [Clip.pictureStage index c changes, Clip.soundStage index c]
  pairs.map List.flatten

def concatStage (clips : Nat) (picture sound : String) : Stage (Filter α) :=
  { inputs := (List.range clips).flatMap fun index =>
      ["v" ++ Decimal.natural index, "a" ++ Decimal.natural index]
    filters := [.concat clips]
    outputs := [picture, sound] }

/-- The shortest fade that shows. -/
def leastFade : α :=
  0.1

/-- Both stages of every fade, from the given pads on. -/
def fadeStages (index : Nat) (picture sound : String) :
    List (Overlay α × FadeDirection) → List (Stage (Filter α)) × String × String
  | [] => ([], picture, sound)
  | (fade, direction) :: rest =>
    let start := Scalar.max fade.shown.start 0
    let length := Scalar.max (fade.shown.stop - start) leastFade
    let nextPicture := "vfade" ++ Decimal.natural index
    let nextSound := "afade" ++ Decimal.natural index
    let (stages, ends) := fadeStages (index + 1) nextPicture nextSound rest
    (.single picture (.fade direction start length) nextPicture ::
      .single sound (.fadeSound direction start length) nextSound :: stages, ends)

/-- A text overlay that shows something, with its number among all text overlays. -/
structure Caption (α : Type) where
  overlay : Nat
  shown : Span α
  words : String
  position : TextPosition

/-- The stages that lay text images over the picture; the images are the inputs from `input` on. -/
def textStages (index input : Nat) (picture : String) :
    List (Caption α) → List (Stage (Filter α)) × String
  | [] => ([], picture)
  | caption :: rest =>
    let image := "txt" ++ Decimal.natural index
    let next := "vtxt" ++ Decimal.natural index
    let shown : Span α := ⟨Scalar.max caption.shown.start 0, Scalar.max caption.shown.stop 0⟩
    let (stages, last) := textStages (index + 1) (input + 1) next rest
    (.single (Decimal.natural input ++ ":v") .resetClock image ::
      ⟨[picture, image], [.overlay shown], [next]⟩ :: stages, last)

/-- The stages that mix music into the sound. -/
def musicStages (input : Nat) (sound : String) :
    Option (Music α) → List (Stage (Filter α)) × String
  | none => ([], sound)
  | some music =>
    ([.single (Decimal.natural input ++ ":a") (.volume music.volume) "bgm",
      ⟨[sound, "bgm"], [.mix], ["amix"]⟩], "amix")

def outputPads : List String :=
  ["outv", "outa"]

def captions (t : Timeline α) : List (Caption α) :=
  t.texts.zipIdx.filterMap fun (overlay, index) =>
    match overlay.content with
    | .text words position =>
      if (Text.trim words.toList).isEmpty then none
      else some ⟨index, overlay.shown, words, position⟩
    | .fade _ => none

def fades (t : Timeline α) : List (Overlay α × FadeDirection) :=
  t.fades.filterMap fun overlay =>
    match overlay.content with
    | .fade direction => some (overlay, direction)
    | .text .. => none

def mixedMusic? (t : Timeline α) (options : PlanOptions) : Option (Music α) :=
  if options.mixMusic then t.music.head? else none

/-- All that follows the stages of the clips. -/
def finish (clips : Nat) (captions : List (Caption α)) (fades : List (Overlay α × FadeDirection))
    (music : Option (Music α)) : List (Stage (Filter α)) :=
  if captions.isEmpty ∧ fades.isEmpty ∧ music.isNone then [concatStage clips "outv" "outa"]
  else
    let (fadeStages, faded, fadedSound) := fadeStages 0 "concatv" "concata" fades
    let (textStages, picture) := textStages 0 1 faded captions
    let (musicStages, sound) := musicStages (1 + captions.length) fadedSound music
    concatStage clips "concatv" "concata" :: fadeStages ++ textStages ++ musicStages ++
      [.single picture .pass "outv", .single sound .passSound "outa"]

def stages? (t : Timeline α) (options : PlanOptions) : Option (List (Stage (Filter α))) :=
  (clipStages? options t.clips).map
    (· ++ finish t.clips.length (captions t) (fades t) (mixedMusic? t options))

end Plan

end Montage

/-!
From a timeline to a plan. Input 0 is the source; the text images follow in the order of their
overlays, and then the music.
-/

namespace Montage.Plan

variable {α : Type} [Scalar α]

/-- How long a still image is shown: past the end of the output. -/
def stillSeconds (t : Timeline α) : α :=
  Scalar.ceiling t.total + 1

def inputs (t : Timeline α) (options : PlanOptions) : List (PlanInput α) :=
  .source ::
    (captions t).map (fun c => .textImage c.overlay c.words c.position (stillSeconds t)) ++
    (mixedMusic? t options).toList.map fun music => .music music.keywords music.volume

def graph (t : Timeline α) (options : PlanOptions) : Except PlanError (Graph (Filter α)) :=
  if t.clips.isEmpty then .error .nothingToRender
  else match stages? t options with
    | none => .error .undefinedCrop
    | some stages => .ok (.ofStages stages)

def build (t : Timeline α) (options : PlanOptions) : Except PlanError (RenderPlan α) := do
  let graph ← graph t options
  let description ← graph.describe Filter.print
  if graph.terminalPads = outputPads then
    let inputs := inputs t options
    .ok
      { inputs := inputs
        description := description
        outputs := outputPads.map Stage.pad
        cap := if inputs.any PlanInput.isLooped then some t.total else none
        total := t.total }
  else .error (.danglingPads graph.terminalPads)

end Montage.Plan
