import Montage.Proofs.Plan.Build
import Montage.Proofs.Plan.Meaning

/-! What reaches the outputs of a plan is what its timeline means. Each phase makes of the picture
and the sound that reach it what the timeline asks for. -/
namespace Montage.Plan

section Phases

variable {α : Type} [Scalar α] {options : PlanOptions} {t : Timeline α} {s : Stage (Filter α)}
  {c : Clip α} {label : String} {k : Nat} {input : PlanInput α}

/-- What reaches a pad of the plan. -/
def signal (options : PlanOptions) (t : Timeline α) : String → PlanSignal α :=
  Signal.ofPad (originFrom 0 (inputs t options)) (stages options t)

theorem signal_of_mem {output : Nat} (hs : s ∈ stages options t)
    (houtput : s.outputs.idxOf? label = some output) :
    signal options t label =
      Signal.through s.filters (s.inputs.map (signal options t)) output :=
  Signal.ofPad_of_mem (wellWired_stages options t).1 hs houtput

/-- A stage with one output makes it of what reaches the inputs. -/
theorem signal_of_single_output (hs : s ∈ stages options t) (houtput : s.outputs = [label]) :
    signal options t label = Signal.through s.filters (s.inputs.map (signal options t)) 0 := by
  refine signal_of_mem hs ?_
  simp [houtput, List.idxOf?_cons]

theorem signal_input (h : (inputs t options)[k]? = some input) :
    signal options t (Pad.inputPicture k).label = .outside (.picture input) ∧
      signal options t (Pad.inputSound k).label = .outside (.sound input) := by
  have hwired := (wellWired_stages options t).1
  have hpicture : (Pad.inputPicture k).label ∉ Stage.made (stages options t) :=
    fun hmade => hwired.made_inside _ hmade ⟨k, Or.inl rfl⟩
  have hsound : (Pad.inputSound k).label ∉ Stage.made (stages options t) :=
    fun hmade => hwired.made_inside _ hmade ⟨k, Or.inr rfl⟩
  have horigin : originFrom 0 (inputs t options) (Pad.inputPicture (0 + k)).label =
      .picture input ∧ originFrom 0 (inputs t options) (Pad.inputSound (0 + k)).label =
        .sound input := originFrom_label h
  rw [Nat.zero_add] at horigin
  rw [signal, Signal.ofPad_of_not_made hpicture, Signal.ofPad_of_not_made hsound, horigin.1,
    horigin.2]
  exact ⟨rfl, rfl⟩

/-! ### Clips -/

theorem signal_clip (options : PlanOptions) (h : (c, k) ∈ t.clips.zipIdx) :
    signal options t (Pad.clipPicture k).label = c.picture options ∧
      signal options t (Pad.clipSound k).label = c.sound := by
  have hstages {s : Stage (Filter α)}
      (hs : s ∈ [c.pictureStage k (changes options c), c.soundStage k]) : s ∈ stages options t :=
    List.mem_append_left _ (List.mem_flatMap.mpr ⟨(c, k), h, hs⟩)
  have hsource : (inputs t options)[0]? = some .source := rfl
  have hinput := signal_input hsource
  rw [Pad.label_inputPicture_zero, Pad.label_inputSound_zero] at hinput
  have hpicture : signal options t (Pad.clipPicture k).label =
      Signal.through _ [signal options t "0:v"] 0 :=
    signal_of_single_output (hstages List.mem_cons_self) rfl
  have hsound : signal options t (Pad.clipSound k).label =
      Signal.through _ [signal options t "0:a"] 0 :=
    signal_of_single_output (hstages (List.mem_cons_of_mem _ List.mem_cons_self)) rfl
  rw [hpicture, hsound, hinput.1, hinput.2]
  exact ⟨rfl, rfl⟩

theorem signal_concat {picture sound : String} (hpads : picture ≠ sound)
    (hs : concatStage t.clips.length picture sound ∈ stages options t) :
    signal options t picture = t.joined options 0 ∧
      signal options t sound = t.joined options 1 := by
  have hinputs : (concatStage (α := α) t.clips.length picture sound).inputs.map
      (signal options t) = t.clips.flatMap fun c => [c.picture options, c.sound] := by
    calc
      _ = t.clips.zipIdx.flatMap fun numbered =>
          [signal options t (Pad.clipPicture numbered.2).label,
            signal options t (Pad.clipSound numbered.2).label] := by
        rw [concatStage, List.range_eq_range', ← List.zipIdx_map_snd 0 t.clips, List.flatMap_map,
          List.map_flatMap]
        rfl
      _ = t.clips.zipIdx.flatMap fun numbered =>
          [numbered.1.picture options, numbered.1.sound] := by
        refine List.flatMap_congr fun numbered h => ?_
        obtain ⟨hpicture, hsound⟩ := signal_clip options h
        rw [hpicture, hsound]
      _ = t.clips.flatMap fun c => [c.picture options, c.sound] := by
        conv_rhs => rw [← List.zipIdx_map_fst 0 t.clips, List.flatMap_map]
  have hfirst : (concatStage (α := α) t.clips.length picture sound).outputs.idxOf? picture =
      some 0 := by
    simp [concatStage, List.idxOf?_cons]
  have hsecond : (concatStage (α := α) t.clips.length picture sound).outputs.idxOf? sound =
      some 1 := by
    simp [concatStage, List.idxOf?_cons, hpads]
  rw [signal_of_mem hs hfirst, signal_of_mem hs hsecond, hinputs]
  exact ⟨rfl, rfl⟩

/-! ### Fades, texts and music -/

theorem signal_fadeStages (index : Nat) (picture sound : String)
    (fading : List (Overlay α × FadeDirection))
    (hstages : (fadeStages index picture sound fading).1 ⊆ stages options t) :
    signal options t (fadeStages index picture sound fading).2.1 =
        fading.foldl (Overlay.faded .fade) (signal options t picture) ∧
      signal options t (fadeStages index picture sound fading).2.2 =
        fading.foldl (Overlay.faded .fadeSound) (signal options t sound) := by
  induction fading generalizing index picture sound with
  | nil => exact ⟨rfl, rfl⟩
  | cons fade rest ih =>
    obtain ⟨o, direction⟩ := fade
    rw [fadeStages_cons] at hstages ⊢
    obtain ⟨hpicture, hstages⟩ := List.cons_subset.mp hstages
    obtain ⟨hsound, hstages⟩ := List.cons_subset.mp hstages
    have hrest := ih (index + 1) (Pad.fadedPicture index).label (Pad.fadedSound index).label hstages
    rw [signal_of_single_output hpicture rfl, signal_of_single_output hsound rfl] at hrest
    exact hrest

theorem inputs_caption {caption : Caption α} (h : (captions t)[k]? = some caption) :
    (inputs t options)[1 + k]? =
      some (.textImage caption.overlay caption.words caption.position (stillSeconds t)) := by
  obtain ⟨hk, -⟩ := List.getElem?_eq_some_iff.mp h
  rw [Nat.add_comm, inputs, List.cons_append, List.getElem?_cons_succ,
    List.getElem?_append_left (by simpa using hk), List.getElem?_map, h]
  rfl

theorem inputs_music {music : Music α} (h : mixedMusic? t options = some music) :
    (inputs t options)[1 + (captions t).length]? =
      some (.music music.keywords music.volume) := by
  rw [Nat.add_comm, inputs, List.cons_append, List.getElem?_cons_succ,
    List.getElem?_append_right (by simp), h]
  simp

theorem signal_textStages (index first : Nat) (picture : String) (texts : List (Caption α))
    (hstages : (textStages index first picture texts).1 ⊆ stages options t)
    (hinputs : ∀ k caption, texts[k]? = some caption → (inputs t options)[first + k]? =
      some (.textImage caption.overlay caption.words caption.position (stillSeconds t))) :
    signal options t (textStages index first picture texts).2 =
      texts.foldl (Overlay.captioned (stillSeconds t)) (signal options t picture) := by
  induction texts generalizing index first picture with
  | nil => rfl
  | cons caption rest ih =>
    rw [textStages_cons] at hstages ⊢
    obtain ⟨hreset, hstages⟩ := List.cons_subset.mp hstages
    obtain ⟨hover, hstages⟩ := List.cons_subset.mp hstages
    have hfirst : (inputs t options)[first]? = some _ := hinputs 0 caption rfl
    have himage : signal options t (Pad.image index).label =
        .made [.resetClock] [signal options t (Pad.inputPicture first).label] 0 :=
      signal_of_single_output hreset rfl
    have hcaptioned : signal options t (Pad.captioned index).label = .made _
        [signal options t picture, signal options t (Pad.image index).label] 0 :=
      signal_of_single_output hover rfl
    have hrest := ih (index + 1) (first + 1) (Pad.captioned index).label hstages
      fun k c hc => by simpa [Nat.add_assoc, Nat.add_comm 1 k] using hinputs (k + 1) c hc
    rw [hcaptioned, himage, (signal_input hfirst).1] at hrest
    exact hrest

theorem signal_musicStages (sound : String)
    (hstages : (musicStages (1 + (captions t).length) sound (mixedMusic? t options)).1 ⊆
      stages options t) :
    signal options t (musicStages (1 + (captions t).length) sound (mixedMusic? t options)).2 =
      (mixedMusic? t options).elim (signal options t sound)
        (Timeline.mixed · (signal options t sound)) := by
  cases hmusic : mixedMusic? t options with
  | none => rfl
  | some music =>
    rw [hmusic] at hstages
    obtain ⟨hvolume, hstages⟩ := List.cons_subset.mp hstages
    obtain ⟨hmix, -⟩ := List.cons_subset.mp hstages
    have htrack : signal options t Pad.music.label = .made [.volume music.volume]
        [signal options t (Pad.inputSound (1 + (captions t).length)).label] 0 :=
      signal_of_single_output hvolume rfl
    have hmixed : signal options t Pad.mixed.label = .made [.mix]
        [signal options t sound, signal options t Pad.music.label] 0 :=
      signal_of_single_output hmix rfl
    rw [htrack, (signal_input (inputs_music hmusic)).2] at hmixed
    exact hmixed

/-! ### The outputs -/

theorem picture_eq (options : PlanOptions) (t : Timeline α) :
    t.picture options = (captions t).foldl (Overlay.captioned (stillSeconds t))
      ((fades t).foldl (Overlay.faded .fade) (t.joined options 0)) := by
  rw [foldl_fades, foldl_captions]
  rfl

theorem sound_eq (options : PlanOptions) (t : Timeline α) :
    let own := (fades t).foldl (Overlay.faded .fadeSound) (t.joined options 1)
    t.sound options = (mixedMusic? t options).elim own (Timeline.mixed · own) := by
  intro own
  have hown : own = t.fades.foldl (Overlay.fade .fadeSound) (t.joined options 1) :=
    foldl_fades t _ _
  rw [hown, Timeline.sound, mixedMusic?]
  cases options.mixMusic with
  | false => rfl
  | true => cases t.music <;> rfl

theorem signal_outputs (options : PlanOptions) (t : Timeline α) :
    signal options t Pad.picture.label = t.picture options ∧
      signal options t Pad.sound.label = t.sound options := by
  have hfinish : finish t.clips.length (captions t) (fades t) (mixedMusic? t options) ⊆
      stages options t := List.subset_append_right _ _
  rw [picture_eq, sound_eq]
  rw [finish_eq] at hfinish
  split at hfinish
  · -- Nothing follows the concatenation.
    rename_i hnone
    simp only [List.isEmpty_iff, Option.isNone_iff_eq_none] at hnone
    rw [hnone.1, hnone.2.1, hnone.2.2]
    exact signal_concat (by decide) (hfinish List.mem_cons_self)
  · obtain ⟨hconcat, heffects⟩ := List.cons_subset.mp hfinish
    rw [effectStages, List.append_subset, List.append_subset, List.append_subset] at heffects
    obtain ⟨⟨⟨hfades, htexts⟩, hmusic⟩, hlast⟩ := heffects
    obtain ⟨hpicture, hlast⟩ := List.cons_subset.mp hlast
    obtain ⟨hsound, -⟩ := List.cons_subset.mp hlast
    obtain ⟨hjoined, hjoinedSound⟩ := signal_concat (by decide) hconcat
    obtain ⟨hfaded, hfadedSound⟩ := signal_fadeStages _ _ _ _ hfades
    have hcaptioned := signal_textStages _ _ _ _ htexts fun k c hc => inputs_caption hc
    have hmixed := signal_musicStages _ hmusic
    rw [hjoined] at hfaded
    rw [hjoinedSound] at hfadedSound
    rw [← hfaded, ← hfadedSound]
    rw [signal_of_single_output hpicture rfl, signal_of_single_output hsound rfl]
    exact ⟨hcaptioned, hmixed⟩

end Phases

/-- Followed back from the outputs, the stages of a plan are what the timeline means: its texts over
its fades over its clips, and the faded sound of its clips with its music. -/
theorem outputs_of_hasCropSize (t : Timeline Binary64) (options : PlanOptions)
    (hclips : t.clips ≠ []) (hcrops : ∀ c ∈ t.clips, c.HasCropSize) :
    ∃ g plan, graph t options = .ok g ∧ build t options = .ok plan ∧
      plan.description = g.render Filter.print ∧
        Signal.ofPad (originFrom 0 plan.inputs) g.stages "outv" = t.picture options ∧
          Signal.ofPad (originFrom 0 plan.inputs) g.stages "outa" = t.sound options := by
  have hfilters : ∀ c ∈ t.clips, (Clip.pictureFilters? options c).isSome :=
    fun c hc => c.pictureFilters?_isSome options (hcrops c hc)
  refine ⟨_, _, graph_eq hclips hfilters, build_eq hclips hfilters, rfl, ?_⟩
  rw [Graph.stages_ofStages]
  exact signal_outputs options t

/-- A blank text is passed over, so that the second text is shown by the first image. -/
theorem outputs_of_blank_text :
    let t : Timeline Binary64 :=
      { clips := [.source "a" ⟨0, 10⟩]
        total := 10
        texts := [⟨⟨1, 2⟩, ⟨1, 2⟩, .text " " .top⟩, ⟨⟨3, 4⟩, ⟨3, 4⟩, .text "Hello" .bottom⟩]
        fades := [⟨⟨0, 1⟩, ⟨0, 1⟩, .fade .fadeIn⟩]
        music := [⟨"calm", 0.3⟩] }
    let picture : PlanSignal Binary64 :=
      .made [.fade .fadeIn 0 1] [t.joined .default 0] 0
    let image : PlanInput Binary64 := .textImage 1 "Hello" .bottom 11
    t.clips ≠ [] ∧ (∀ c ∈ t.clips, c.HasCropSize) ∧
      ∃ g plan, graph t .default = .ok g ∧ build t .default = .ok plan ∧
        Signal.ofPad (originFrom 0 plan.inputs) g.stages "outv" =
          .made [.overlay ⟨3, 4⟩]
            [picture, .made [.resetClock] [.outside (.picture image)] 0] 0 := by
  intro t picture image
  have hclips : t.clips ≠ [] := List.cons_ne_nil _ _
  have hcrops : ∀ c ∈ t.clips, c.HasCropSize := by decide +kernel
  obtain ⟨g, plan, hgraph, hplan, -, hpicture, -⟩ :=
    outputs_of_hasCropSize t .default hclips hcrops
  refine ⟨hclips, hcrops, g, plan, hgraph, hplan, hpicture.trans ?_⟩
  have hstart : Scalar.max (0 : Binary64) 0 = 0 := by decide +kernel
  have hlength : Scalar.max ((1 : Binary64) - 0) leastFade = 1 := by decide +kernel
  have hshown : (⟨Scalar.max 3 0, Scalar.max 4 0⟩ : Span Binary64) = ⟨3, 4⟩ := by decide +kernel
  have hstill : Scalar.ceiling (10 : Binary64) + 1 = 11 := by decide +kernel
  have htexts : t.picture .default = Overlay.captioned (Scalar.ceiling 10 + 1)
      (Overlay.faded .fade (t.joined .default 0) (⟨⟨0, 1⟩, ⟨0, 1⟩, .fade .fadeIn⟩, .fadeIn))
      ⟨1, ⟨3, 4⟩, "Hello", .bottom⟩ := by
    rfl
  rw [htexts, Overlay.captioned, Overlay.faded, Overlay.fadeLength, Overlay.fadeStart, hshown,
    hstill, hstart, hlength]

end Montage.Plan
