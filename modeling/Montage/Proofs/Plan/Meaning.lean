import Montage.Proofs.Filter.Signal
import Montage.Proofs.Plan.Wiring

/-! What a timeline shows and plays, as trees of filters over the inputs of the encoder. -/
namespace Montage

theorem Text.trim_eq_nil_iff {cs : List Char} : trim cs = [] ↔ ∀ c ∈ cs, isBlank c = true := by
  have hright (ds : List Char) : trimRight ds = [] ↔ ∀ c ∈ ds, isBlank c = true := by
    simp [trimRight, trimLeft]
  rw [trim, hright, trimLeft]
  refine ⟨fun h c hc => ?_, fun h c hc => h c ((List.dropWhile_sublist _).subset hc)⟩
  rw [← List.takeWhile_append_dropWhile (p := isBlank) (l := cs)] at hc
  rcases List.mem_append.mp hc with hc | hc
  · exact List.mem_takeWhile_imp hc
  · exact h c hc

theorem Text.isEmpty_trim (cs : List Char) : (trim cs).isEmpty = cs.all isBlank := by
  rw [Bool.eq_iff_iff, List.isEmpty_iff, trim_eq_nil_iff, List.all_eq_true]

namespace Plan

/-- What a pad of an encoder input carries. -/
inductive Origin (α : Type)
  | picture (input : PlanInput α)
  | sound (input : PlanInput α)
  | unknown (label : String)

/-- The origin that the label names, with inputs numbered from `first`. -/
def originFrom {α : Type} (first : Nat) : List (PlanInput α) → String → Origin α
  | [], label => .unknown label
  | input :: rest, label =>
    if label = (Pad.inputPicture first).label then .picture input
    else if label = (Pad.inputSound first).label then .sound input
    else originFrom (first + 1) rest label

/-- Both pads of an input are told apart from those of every other input. -/
theorem originFrom_label {α : Type} {inputs : List (PlanInput α)} {input : PlanInput α}
    {first k : Nat} (h : inputs[k]? = some input) :
    originFrom first inputs (Pad.inputPicture (first + k)).label = .picture input ∧
      originFrom first inputs (Pad.inputSound (first + k)).label = .sound input := by
  induction inputs generalizing first k with
  | nil => cases h
  | cons head rest ih =>
    cases k with
    | zero =>
      obtain rfl : head = input := Option.some.inj h
      simp [originFrom]
    | succ k =>
      have hnumber : first + (k + 1) = first + 1 + k := by omega
      have hlater : first + 1 + k ≠ first := by omega
      rw [hnumber]
      simpa [originFrom, hlater] using ih h

abbrev PlanSignal (α : Type) :=
  Signal (Origin α) α

end Plan

open Plan (Origin PlanSignal)

variable {α : Type} [Scalar α]

/-! ### Clips -/

/-- The span of the clip cut out of the source, at its speed and with its change of picture. -/
def Clip.picture (options : PlanOptions) (c : Clip α) : PlanSignal α :=
  .made ([.trim c.span, .resetClock, .stretch (1 / effectiveRate c.rate)] ++
    Plan.changes options c ++ [.squarePixels]) [.outside (.picture .source)] 0

def Clip.sound (c : Clip α) : PlanSignal α :=
  .made ([.trimSound c.span, .resetSoundClock] ++ (Tempo.steps c.rate).map .tempo ++
    if isFullVolume c.volume then [] else [.volume (Scalar.clamp 0 1 c.volume)])
    [.outside (.sound .source)] 0

/-- The clips joined in their order. The picture is output 0 and the sound is output 1. -/
def Timeline.joined (options : PlanOptions) (t : Timeline α) (output : Nat) : PlanSignal α :=
  .made [.concat t.clips.length] (t.clips.flatMap fun c => [c.picture options, c.sound]) output

/-! ### Fades and texts -/

namespace Overlay

def fadeStart (o : Overlay α) : α :=
  Scalar.max o.shown.start 0

def fadeLength (o : Overlay α) : α :=
  Scalar.max (o.shown.stop - o.fadeStart) Plan.leastFade

/-- The signal faded in the window of the overlay, by a filter for pictures or for sounds. -/
def faded (filter : FadeDirection → α → α → Filter α) (signal : PlanSignal α) :
    Overlay α × FadeDirection → PlanSignal α
  | (o, direction) => .made [filter direction o.fadeStart o.fadeLength] [signal] 0

/-- The picture with the image of the text over it in the window of the text. -/
def captioned (seconds : α) (picture : PlanSignal α) (c : Plan.Caption α) : PlanSignal α :=
  let image : PlanInput α := .textImage c.overlay c.words c.position seconds
  .made [.overlay ⟨Scalar.max c.shown.start 0, Scalar.max c.shown.stop 0⟩]
    [picture, .made [.resetClock] [.outside (.picture image)] 0] 0

/-- What an overlay among the fades adds. -/
def fade (filter : FadeDirection → α → α → Filter α) (signal : PlanSignal α) (o : Overlay α) :
    PlanSignal α :=
  match o.content with
  | .fade direction => faded filter signal (o, direction)
  | .text .. => signal

/-- What an overlay among the texts adds. A blank text adds nothing. -/
def caption (seconds : α) (picture : PlanSignal α) : Overlay α × Nat → PlanSignal α
  | (o, index) =>
    match o.content with
    | .text words position =>
      if words.toList.all Text.isBlank then picture
      else captioned seconds picture ⟨index, o.shown, words, position⟩
    | .fade _ => picture

end Overlay

/-! ### The whole -/

namespace Timeline

/-- All texts over all fades of the joined clips. -/
def picture (options : PlanOptions) (t : Timeline α) : PlanSignal α :=
  t.texts.zipIdx.foldl (Overlay.caption (Plan.stillSeconds t))
    (t.fades.foldl (Overlay.fade .fade) (t.joined options 0))

/-- The sound mixed with the track of the music. -/
def mixed (music : Music α) (sound : PlanSignal α) : PlanSignal α :=
  let track : PlanInput α := .music music.keywords music.volume
  .made [.mix] [sound, .made [.volume music.volume] [.outside (.sound track)] 0] 0

/-- All fades of the joined clips, mixed with the first music when music is wanted. -/
def sound (options : PlanOptions) (t : Timeline α) : PlanSignal α :=
  let own := t.fades.foldl (Overlay.fade .fadeSound) (t.joined options 1)
  match options.mixMusic, t.music with
  | true, music :: _ => mixed music own
  | _, _ => own

end Timeline

/-! ### Without the overlays that add nothing -/

section Shown

variable (t : Timeline α)

theorem Plan.foldl_fades (filter : FadeDirection → α → α → Filter α) (signal : PlanSignal α) :
    (fades t).foldl (Overlay.faded filter) signal = t.fades.foldl (Overlay.fade filter) signal := by
  rw [fades, List.foldl_filterMap]
  congr 1
  funext signal o
  cases h : o.content <;> simp [Overlay.fade, h]

theorem Plan.foldl_captions (picture : PlanSignal α) :
    (captions t).foldl (Overlay.captioned (stillSeconds t)) picture =
      t.texts.zipIdx.foldl (Overlay.caption (stillSeconds t)) picture := by
  rw [captions, List.foldl_filterMap]
  congr 1
  funext picture ⟨o, index⟩
  cases h : o.content with
  | fade direction => simp [Overlay.caption, h]
  | text words position =>
    have hblank := Text.isEmpty_trim words.toList
    cases hall : words.toList.all Text.isBlank <;> simp [Overlay.caption, h, hblank, hall]

end Shown

end Montage
