import Montage.Proofs.Plan.Build
import Montage.Proofs.Plan.Meaning

/-! Words do not reach the graph. A plan is made from where texts stand in time and from the volume
of the first music, never from what they say. -/
namespace Montage

/-- The same overlay but for its words. Words that show something stay so, and blank ones stay
blank. -/
inductive Overlay.SameButWords {α : Type} : Overlay α → Overlay α → Prop
  | same (o : Overlay α) : SameButWords o o
  | text {span shown : Span α} {position : TextPosition} {words words' : String}
      (hblank : words.toList.all Text.isBlank = words'.toList.all Text.isBlank) :
      SameButWords ⟨span, shown, .text words position⟩ ⟨span, shown, .text words' position⟩

/-- The same timeline but for the words of its texts, the keywords of its music, and all music but
the first. -/
structure Timeline.SameButWords {α : Type} (t t' : Timeline α) : Prop where
  clips : t.clips = t'.clips
  total : t.total = t'.total
  texts : List.Forall₂ Overlay.SameButWords t.texts t'.texts
  fades : List.Forall₂ Overlay.SameButWords t.fades t'.fades
  volume : t.music.head?.map Music.volume = t'.music.head?.map Music.volume

namespace Plan

variable {α : Type} {t t' : Timeline α}

/-! ### What is left of overlays and music -/

/-- When a text that shows something is shown. -/
def shown? (o : Overlay α) : Option (Span α) :=
  match o.content with
  | .text words _ => if words.toList.all Text.isBlank then none else some o.shown
  | .fade _ => none

theorem shown?_congr {o o' : Overlay α} (h : o.SameButWords o') : shown? o = shown? o' := by
  cases h with
  | same => rfl
  | text hblank => simp only [shown?, hblank]

theorem map_shown_captions (t : Timeline α) :
    (captions t).map Caption.shown = t.texts.filterMap shown? := by
  have hshown : ∀ p : Overlay α × Nat, Option.map Caption.shown
      (match p.1.content with
        | .text words position =>
          if (Text.trim words.toList).isEmpty then none
          else some ⟨p.2, p.1.shown, words, position⟩
        | .fade _ => none) = shown? p.1 := by
    rintro ⟨⟨span, shown, content⟩, index⟩
    cases content with
    | fade direction => rfl
    | text words position =>
      simp only [Text.isEmpty_trim, shown?]
      split <;> rfl
  calc (captions t).map Caption.shown
      = t.texts.zipIdx.filterMap (fun p => shown? p.1) := by
        rw [captions, List.map_filterMap]
        exact congrArg (fun f => List.filterMap f t.texts.zipIdx) (funext hshown)
    _ = (t.texts.zipIdx.map Prod.fst).filterMap shown? := by
        rw [List.filterMap_map]
        rfl
    _ = t.texts.filterMap shown? := by rw [List.zipIdx_map_fst]

theorem filterMap_congr {β γ : Type} {related : β → β → Prop} {f : β → Option γ}
    (hf : ∀ b b', related b b' → f b = f b') {xs ys : List β} (h : List.Forall₂ related xs ys) :
    xs.filterMap f = ys.filterMap f := by
  induction h with
  | nil => rfl
  | cons hhead _ ih => simp only [List.filterMap_cons, hf _ _ hhead, ih]

theorem map_shown_congr (h : t.SameButWords t') :
    (captions t).map Caption.shown = (captions t').map Caption.shown := by
  rw [map_shown_captions, map_shown_captions]
  exact filterMap_congr (fun _ _ ho => shown?_congr ho) h.texts

theorem fades_congr (h : t.SameButWords t') : fades t = fades t' := by
  refine filterMap_congr (fun o o' ho => ?_) h.fades
  cases ho <;> rfl

theorem mixedVolume_congr (h : t.SameButWords t') (options : PlanOptions) :
    (mixedMusic? t options).map Music.volume = (mixedMusic? t' options).map Music.volume := by
  unfold mixedMusic?
  split
  · exact h.volume
  · rfl

/-! ### Stages -/

variable [Scalar α]

/-- The stages of texts depend on when they are shown. -/
theorem textStages_congr {texts texts' : List (Caption α)}
    (h : texts.map Caption.shown = texts'.map Caption.shown) (index input : Nat)
    (picture : String) :
    textStages index input picture texts = textStages index input picture texts' := by
  induction texts generalizing texts' index input picture with
  | nil =>
    rw [List.map_nil, eq_comm, List.map_eq_nil_iff] at h
    rw [h]
  | cons caption rest ih =>
    cases texts' with
    | nil => cases h
    | cons caption' rest' =>
      obtain ⟨hshown, hrest⟩ := List.cons.inj h
      rw [textStages_cons, textStages_cons, hshown, ih hrest]

omit [Scalar α] in
theorem musicStages_congr {music music' : Option (Music α)}
    (h : music.map Music.volume = music'.map Music.volume) (input : Nat) (sound : String) :
    musicStages input sound music = musicStages input sound music' := by
  match music, music' with
  | none, none => rfl
  | some m, some m' =>
    have hvolume : m.volume = m'.volume := Option.some.inj h
    rw [musicStages, musicStages, hvolume]

theorem finish_congr (h : t.SameButWords t') (options : PlanOptions) (clips : Nat) :
    finish clips (captions t) (fades t) (mixedMusic? t options) =
      finish clips (captions t') (fades t') (mixedMusic? t' options) := by
  have hshown := map_shown_congr h
  have hvolume := mixedVolume_congr h options
  have hlength : (captions t).length = (captions t').length := by
    simpa using congrArg List.length hshown
  have hempty : (captions t).isEmpty = (captions t').isEmpty := by
    simpa using congrArg List.isEmpty hshown
  have hnone : (mixedMusic? t options).isNone = (mixedMusic? t' options).isNone := by
    simpa using congrArg Option.isNone hvolume
  rw [finish_eq, finish_eq, hempty, hnone, fades_congr h]
  simp only [effectStages, textRun, musicRun, textStages_congr hshown, hlength,
    musicStages_congr hvolume]

theorem graph_congr (h : t.SameButWords t') (options : PlanOptions) :
    graph t options = graph t' options := by
  rw [graph, graph, stages?, stages?, ← h.clips, finish_congr h]

/-- Something is looped when there is a caption or music. -/
theorem any_isLooped_inputs (t : Timeline α) (options : PlanOptions) :
    (inputs t options).any PlanInput.isLooped =
      (!(captions t).isEmpty || (mixedMusic? t options).isSome) := by
  cases hcaptions : captions t <;> cases hmusic : mixedMusic? t options <;>
    simp [inputs, hcaptions, hmusic, PlanInput.isLooped]

theorem any_isLooped_congr (h : t.SameButWords t') (options : PlanOptions) :
    (inputs t options).any PlanInput.isLooped = (inputs t' options).any PlanInput.isLooped := by
  have hempty : (captions t).isEmpty = (captions t').isEmpty := by
    simpa using congrArg List.isEmpty (map_shown_congr h)
  have hsome : (mixedMusic? t options).isSome = (mixedMusic? t' options).isSome := by
    simpa using congrArg Option.isSome (mixedVolume_congr h options)
  rw [any_isLooped_inputs, any_isLooped_inputs, hempty, hsome]

/-! ### Plans -/

/-- A plan without its inputs: the graph, what it gives, and how long it runs. -/
def outline (plan : RenderPlan α) : String × List String × Option α × α :=
  (plan.description, plan.outputs, plan.cap, plan.total)

theorem map_outline_build (t : Timeline α) (options : PlanOptions) :
    (build t options).map outline = (do
      let graph ← graph t options
      let description ← graph.describe Filter.print
      if graph.terminalPads = outputPads then
        .ok (description, outputPads.map Stage.pad,
          if (inputs t options).any PlanInput.isLooped then some t.total else none, t.total)
      else .error (.danglingPads graph.terminalPads)) := by
  rw [build]
  cases graph t options with
  | error cause => rfl
  | ok g =>
    change Except.map outline (g.describe Filter.print >>= _) = (g.describe Filter.print >>= _)
    cases g.describe Filter.print with
    | error cause => rfl
    | ok description =>
      change Except.map outline (if _ then _ else _) = if _ then _ else _
      split <;> rfl

/-- Timelines that differ in words only have plans that differ in inputs only, or fail alike. -/
theorem map_outline_build_congr (h : t.SameButWords t') (options : PlanOptions) :
    (build t options).map outline = (build t' options).map outline := by
  rw [map_outline_build, map_outline_build, graph_congr h, any_isLooped_congr h, h.total]

/-- Without mixing, a plan does not depend on the music. -/
theorem build_without_music (t : Timeline α) (options : PlanOptions)
    (h : options.mixMusic = false) : build t options = build { t with music := [] } options := by
  have hnone (t : Timeline α) : mixedMusic? t options = none := if_neg (by rw [h]; decide)
  simp only [build, graph, stages?, inputs, hnone]
  rfl

end Plan

end Montage
