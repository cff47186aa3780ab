import Montage.Plan.Build
import Montage.Proofs.Filter.Graph
import Montage.Proofs.Plan.Pads

/-! The stages of a plan are well wired. Each phase of the plan takes the picture and the sound that
the phase before left open, so that in the end only the two outputs are open. -/
namespace Montage.Plan

open Stage (Flow made WellWired)

variable {α : Type} [Scalar α] {options : PlanOptions} {clips : List (Clip α)} {t : Timeline α}

/-! ### The stages of the clips -/

/-- The filters of the clip's change of picture. -/
def changes (options : PlanOptions) (c : Clip α) : List (Filter α) :=
  (Clip.pictureFilters? options c).getD []

/-- Picture and sound of every clip, numbered from `first`. -/
def clipStages (options : PlanOptions) (first : Nat) (clips : List (Clip α)) :
    List (Stage (Filter α)) :=
  (clips.zipIdx first).flatMap fun (c, index) =>
    [c.pictureStage index (changes options c), c.soundStage index]

theorem mapM_eq_some_map {β γ : Type} {f : β → Option γ} {g : β → γ} {xs : List β}
    (h : ∀ x ∈ xs, f x = some (g x)) : xs.mapM f = some (xs.map g) := by
  induction xs with
  | nil => rfl
  | cons x rest ih =>
    rw [List.mapM_cons, h x List.mem_cons_self, ih fun y hy => h y (List.mem_cons_of_mem x hy)]
    rfl

theorem clipStages?_eq (h : ∀ c ∈ clips, (Clip.pictureFilters? options c).isSome) :
    clipStages? options clips = some (clipStages options 0 clips) := by
  have hpairs : (clips.zipIdx.mapM fun (c, index) => (Clip.pictureFilters? options c).map
      fun changes => [Clip.pictureStage index c changes, Clip.soundStage index c]) =
      some (clips.zipIdx.map fun (c, index) =>
        [c.pictureStage index (changes options c), c.soundStage index]) := by
    refine mapM_eq_some_map fun ⟨c, index⟩ hmem => ?_
    obtain ⟨filters, hfilters⟩ :=
      Option.isSome_iff_exists.mp (h c (List.fst_mem_of_mem_zipIdx hmem))
    simp [changes, hfilters]
  rw [clipStages?, hpairs]
  rfl

/-- All stages of the plan. -/
def stages (options : PlanOptions) (t : Timeline α) : List (Stage (Filter α)) :=
  clipStages options 0 t.clips ++
    finish t.clips.length (captions t) (fades t) (mixedMusic? t options)

theorem stages?_eq (h : ∀ c ∈ t.clips, (Clip.pictureFilters? options c).isSome) :
    stages? t options = some (stages options t) := by
  rw [stages?, clipStages?_eq h]
  rfl

theorem clipStages_cons (options : PlanOptions) (first : Nat) (c : Clip α) (rest : List (Clip α)) :
    clipStages options first (c :: rest) =
      c.pictureStage first (changes options c) :: c.soundStage first ::
        clipStages options (first + 1) rest := rfl

/-- Picture and sound of the clips alternate among their stages. -/
theorem getElem?_clipStages (options : PlanOptions) (first k : Nat) (clips : List (Clip α)) :
    (clipStages options first clips)[2 * k]? =
        clips[k]?.map (fun c => c.pictureStage (first + k) (changes options c)) ∧
      (clipStages options first clips)[2 * k + 1]? =
        clips[k]?.map fun c => c.soundStage (first + k) := by
  induction clips generalizing first k with
  | nil => exact ⟨rfl, rfl⟩
  | cons c rest ih =>
    cases k with
    | zero => exact ⟨rfl, rfl⟩
    | succ k =>
      have hrest := ih (first + 1) k
      rw [Nat.add_right_comm, Nat.add_assoc] at hrest
      exact hrest

theorem getElem?_stages {c : Clip α} {k : Nat} (options : PlanOptions)
    (hc : t.clips[k]? = some c) :
    (stages options t)[2 * k]? = some (c.pictureStage k (changes options c)) ∧
      (stages options t)[2 * k + 1]? = some (c.soundStage k) := by
  have hstage {i : Nat} {s : Stage (Filter α)}
      (h : (clipStages options 0 t.clips)[i]? = some s) : (stages options t)[i]? = some s := by
    obtain ⟨hi, -⟩ := List.getElem?_eq_some_iff.mp h
    rw [stages, List.getElem?_append_left hi, h]
  obtain ⟨hpicture, hsound⟩ := getElem?_clipStages options 0 k t.clips
  rw [hc, Option.map_some, Nat.zero_add] at hpicture hsound
  exact ⟨hstage hpicture, hstage hsound⟩

theorem flow_clipStages (options : PlanOptions) (first : Nat) (clips : List (Clip α)) :
    Flow IsInputPad (clipStages options first clips) 0 (made (clipStages options first clips)) := by
  have houtside : ∀ s ∈ clipStages options first clips, ∀ label ∈ s.inputs, IsInputPad label := by
    intro s hs label hlabel
    obtain ⟨⟨c, index⟩, -, hs⟩ := List.mem_flatMap.mp hs
    rcases List.mem_pair.mp hs with rfl | rfl
    · obtain rfl : label = "0:v" := List.mem_singleton.mp hlabel
      exact ⟨0, Or.inl Pad.label_inputPicture_zero.symm⟩
    · obtain rfl : label = "0:a" := List.mem_singleton.mp hlabel
      exact ⟨0, Or.inr Pad.label_inputSound_zero.symm⟩
  have hflow := Flow.of_external houtside 0
  rwa [zero_add] at hflow

/-! ### The stages after them -/

theorem fadeStages_cons (index : Nat) (picture sound : String) (fade : Overlay α)
    (direction : FadeDirection) (rest : List (Overlay α × FadeDirection)) :
    fadeStages index picture sound ((fade, direction) :: rest) =
      let start := Scalar.max fade.shown.start 0
      let length := Scalar.max (fade.shown.stop - start) leastFade
      let next := fadeStages (index + 1) (Pad.fadedPicture index).label
        (Pad.fadedSound index).label rest
      (.single picture (.fade direction start length) (Pad.fadedPicture index).label ::
        .single sound (.fadeSound direction start length) (Pad.fadedSound index).label ::
          next.1, next.2) := rfl

theorem textStages_cons (index input : Nat) (picture : String) (caption : Caption α)
    (rest : List (Caption α)) :
    textStages index input picture (caption :: rest) =
      let shown : Span α := ⟨Scalar.max caption.shown.start 0, Scalar.max caption.shown.stop 0⟩
      let next := textStages (index + 1) (input + 1) (Pad.captioned index).label rest
      (.single (Pad.inputPicture input).label .resetClock (Pad.image index).label ::
        ⟨[picture, (Pad.image index).label], [.overlay shown], [(Pad.captioned index).label]⟩ ::
          next.1, next.2) := rfl

theorem flow_fadeStages (index : Nat) (picture sound : String)
    (fades : List (Overlay α × FadeDirection)) :
    Flow IsInputPad (fadeStages index picture sound fades).1 ({picture} + {sound})
      ({(fadeStages index picture sound fades).2.1} +
        {(fadeStages index picture sound fades).2.2}) := by
  induction fades generalizing index picture sound with
  | nil => exact rfl
  | cons fade rest ih =>
    rw [fadeStages_cons]
    refine ⟨0, {picture}, {sound}, rfl, by simp, rfl, ?_⟩
    refine ⟨0, {sound}, {(Pad.fadedPicture index).label}, rfl, by simp, add_comm _ _, ?_⟩
    have hrest := ih (index + 1) (Pad.fadedPicture index).label (Pad.fadedSound index).label
    rw [add_comm {(Pad.fadedPicture index).label}] at hrest
    exact hrest

theorem flow_textStages (index input : Nat) (picture : String) (captions : List (Caption α)) :
    Flow IsInputPad (textStages index input picture captions).1 {picture}
      {(textStages index input picture captions).2} := by
  induction captions generalizing index input picture with
  | nil => exact rfl
  | cons caption rest ih =>
    rw [textStages_cons]
    refine ⟨{(Pad.inputPicture input).label}, 0, {picture}, rfl, ?_, rfl, ?_⟩
    · intro label hlabel
      exact ⟨input, Or.inl (Multiset.mem_singleton.mp hlabel)⟩
    · refine ⟨0, {picture} + {(Pad.image index).label}, 0, rfl, by simp, ?_, ?_⟩
      · rw [add_zero, add_comm]
        rfl
      · exact ih (index + 1) (input + 1) (Pad.captioned index).label

omit [Scalar α] in
theorem flow_musicStages (input : Nat) (sound : String) (music : Option (Music α)) :
    Flow IsInputPad (musicStages input sound music).1 {sound}
      {(musicStages input sound music).2} := by
  cases music with
  | none => exact rfl
  | some music =>
    refine ⟨{(Pad.inputSound input).label}, 0, {sound}, rfl, ?_, rfl, ?_⟩
    · intro label hlabel
      exact ⟨input, Or.inr (Multiset.mem_singleton.mp hlabel)⟩
    · refine ⟨0, {sound} + {Pad.music.label}, 0, rfl, by simp, ?_, rfl⟩
      rw [add_zero, add_comm]
      rfl

/-! ### All stages -/

section Finish

variable (clips : Nat) (texts : List (Caption α)) (fading : List (Overlay α × FadeDirection))
  (music : Option (Music α))

/-- The stages of the fades, with the pads that they leave open. -/
def fadeRun : List (Stage (Filter α)) × String × String :=
  fadeStages 0 Pad.joinedPicture.label Pad.joinedSound.label fading

def textRun : List (Stage (Filter α)) × String :=
  textStages 0 1 (fadeRun fading).2.1 texts

def musicRun : List (Stage (Filter α)) × String :=
  musicStages (1 + texts.length) (fadeRun fading).2.2 music

/-- The stages after the concatenation, when there are any. -/
def effectStages : List (Stage (Filter α)) :=
  (fadeRun fading).1 ++ (textRun texts fading).1 ++ (musicRun texts fading music).1 ++
    [.single (textRun texts fading).2 .pass Pad.picture.label,
      .single (musicRun texts fading music).2 .passSound Pad.sound.label]

theorem finish_eq : finish clips texts fading music =
    if texts.isEmpty ∧ fading.isEmpty ∧ music.isNone then
      [concatStage clips Pad.picture.label Pad.sound.label]
    else
      concatStage clips Pad.joinedPicture.label Pad.joinedSound.label ::
        effectStages texts fading music := rfl

theorem flow_effectStages :
    Flow IsInputPad (effectStages texts fading music)
      ({Pad.joinedPicture.label} + {Pad.joinedSound.label}) outputPads := by
  have hfades := flow_fadeStages 0 Pad.joinedPicture.label Pad.joinedSound.label fading
  have htexts := (flow_textStages 0 1 (fadeRun fading).2.1 texts).frame {(fadeRun fading).2.2}
  have hmusic := (flow_musicStages (1 + texts.length) (fadeRun fading).2.2 music).frame_left
    {(textRun texts fading).2}
  refine ((hfades.append htexts).append hmusic).append ?_
  refine ⟨0, {(textRun texts fading).2}, {(musicRun texts fading music).2}, rfl, by simp, rfl, ?_⟩
  exact ⟨0, {(musicRun texts fading music).2}, {Pad.picture.label}, rfl, by simp, add_comm _ _,
    add_comm _ _⟩

theorem flow_finish : Flow IsInputPad (finish clips texts fading music)
    ((Pad.pairs .clipPicture .clipSound 0 clips).map Pad.label : List String) outputPads := by
  have hconcat (picture sound : String) :
      Flow IsInputPad [concatStage (α := α) clips picture sound]
        ((Pad.pairs .clipPicture .clipSound 0 clips).map Pad.label : List String)
        ({picture} + {sound}) := by
    have hsingle : Flow IsInputPad [concatStage (α := α) clips picture sound] _ _ := Flow.single _
    have hinputs : (concatStage (α := α) clips picture sound).inputs =
        (Pad.pairs .clipPicture .clipSound 0 clips).map Pad.label := by
      rw [concatStage, List.range_eq_range', Pad.pairs, List.map_flatMap]
      rfl
    rwa [hinputs] at hsingle
  rw [finish_eq]
  split
  · exact hconcat _ _
  · exact (hconcat _ _).append (flow_effectStages texts fading music)

end Finish

/-! ### The pads that they make -/

section Made

open Pad (pairs)

theorem made_clipStages (options : PlanOptions) (first : Nat) (clips : List (Clip α)) :
    made (clipStages options first clips) =
      (pairs .clipPicture .clipSound first clips.length).map Pad.label := by
  induction clips generalizing first with
  | nil => rfl
  | cons c rest ih =>
    have hrest := congrArg ((Pad.clipPicture first).label :: (Pad.clipSound first).label :: ·)
      (ih (first + 1))
    rw [clipStages_cons, List.length_cons, Pad.pairs_succ]
    exact hrest

theorem made_fadeStages (index : Nat) (picture sound : String)
    (fading : List (Overlay α × FadeDirection)) :
    made (fadeStages index picture sound fading).1 =
      (pairs .fadedPicture .fadedSound index fading.length).map Pad.label := by
  induction fading generalizing index picture sound with
  | nil => rfl
  | cons fade rest ih =>
    have hrest := congrArg ((Pad.fadedPicture index).label :: (Pad.fadedSound index).label :: ·)
      (ih (index + 1) (Pad.fadedPicture index).label (Pad.fadedSound index).label)
    rw [fadeStages_cons, List.length_cons, Pad.pairs_succ]
    exact hrest

theorem made_textStages (index input : Nat) (picture : String) (texts : List (Caption α)) :
    made (textStages index input picture texts).1 =
      (pairs .image .captioned index texts.length).map Pad.label := by
  induction texts generalizing index input picture with
  | nil => rfl
  | cons caption rest ih =>
    have hrest := congrArg ((Pad.image index).label :: (Pad.captioned index).label :: ·)
      (ih (index + 1) (input + 1) (Pad.captioned index).label)
    rw [textStages_cons, List.length_cons, Pad.pairs_succ]
    exact hrest

def musicPads : Option (Music α) → List Pad
  | none => []
  | some _ => [.music, .mixed]

omit [Scalar α] in
theorem made_musicStages (input : Nat) (sound : String) (music : Option (Music α)) :
    made (musicStages input sound music).1 = (musicPads music).map Pad.label := by
  cases music <;> rfl

omit [Scalar α] in
@[grind →] theorem mem_musicPads {music : Option (Music α)} {p : Pad} (h : p ∈ musicPads music) :
    p = .music ∨ p = .mixed := by
  cases music with
  | none => cases h
  | some _ => exact List.mem_pair.mp h

/-- The pads between the clips and the outputs, when there are any. -/
def effectPads (fades texts : Nat) (music : Option (Music α)) : List Pad :=
  [.joinedPicture, .joinedSound] ++ pairs .fadedPicture .fadedSound 0 fades ++
    pairs .image .captioned 0 texts ++ musicPads music

theorem made_finish (clips : Nat) (texts : List (Caption α))
    (fading : List (Overlay α × FadeDirection)) (music : Option (Music α)) :
    ∃ inner : List Pad, inner.Sublist (effectPads fading.length texts.length music) ∧
      made (finish clips texts fading music) =
        (inner ++ [Pad.picture, Pad.sound]).map Pad.label := by
  rw [finish_eq]
  split
  · exact ⟨[], List.nil_sublist _, rfl⟩
  · refine ⟨_, List.Sublist.refl _, ?_⟩
    simp only [effectPads, List.map_append, ← made_fadeStages 0 Pad.joinedPicture.label
      Pad.joinedSound.label, ← made_textStages 0 1 (fadeRun fading).2.1,
      ← made_musicStages (1 + texts.length) (fadeRun fading).2.2]
    simp [effectStages, made, concatStage, Stage.single, fadeRun, textRun, musicRun]

omit [Scalar α] in
theorem nodup_pads (clips fades texts : Nat) (music : Option (Music α)) :
    (pairs .clipPicture .clipSound 0 clips ++ effectPads fades texts music ++
      [Pad.picture, Pad.sound]).Nodup := by
  have hclips := Pad.nodup_pairs (f := .clipPicture) (g := .clipSound)
    (fun _ _ => Pad.clipPicture.inj) (fun _ _ => Pad.clipSound.inj) (by simp) 0 clips
  have hfades := Pad.nodup_pairs (f := .fadedPicture) (g := .fadedSound)
    (fun _ _ => Pad.fadedPicture.inj) (fun _ _ => Pad.fadedSound.inj) (by simp) 0 fades
  have htexts := Pad.nodup_pairs (f := .image) (g := .captioned)
    (fun _ _ => Pad.image.inj) (fun _ _ => Pad.captioned.inj) (by simp) 0 texts
  have hmusic : (musicPads music).Nodup := by cases music <;> simp [musicPads]
  -- Pads of two phases differ in kind.
  simp only [effectPads, List.nodup_append, List.mem_append, List.mem_cons, List.not_mem_nil,
    or_false]
  grind

omit [Scalar α] in
/-- No pad of an encoder input is among those that stages make. -/
theorem not_isInputPad_of_mem {clips fades texts : Nat} {music : Option (Music α)} {p : Pad}
    (h : p ∈ pairs .clipPicture .clipSound 0 clips ++ effectPads fades texts music ++
      [Pad.picture, Pad.sound]) : ¬ IsInputPad p.label := by
  rw [isInputPad_label_iff]
  simp only [effectPads, List.mem_append, List.mem_cons, List.not_mem_nil, or_false] at h
  grind

end Made

/-- The stages of a timeline wire every pad once and make the outputs last. -/
theorem wellWired_stages (options : PlanOptions) (t : Timeline α) :
    WellWired IsInputPad outputPads (stages options t) ∧
      ∃ inner, made (stages options t) = inner ++ outputPads := by
  obtain ⟨inner, hsub, hfinish⟩ :=
    made_finish t.clips.length (captions t) (fades t) (mixedMusic? t options)
  have hmade : made (stages options t) =
      (Pad.pairs .clipPicture .clipSound 0 t.clips.length ++ inner ++
        [Pad.picture, Pad.sound]).map Pad.label := by
    simp only [stages, Stage.made_append, made_clipStages, hfinish, List.map_append,
      List.append_assoc]
  have hall := (List.Sublist.refl (Pad.pairs .clipPicture .clipSound 0 t.clips.length)).append hsub
    |>.append (List.Sublist.refl [Pad.picture, Pad.sound])
  have hnodup : (made (stages options t)).Nodup := by
    rw [hmade]
    exact ((nodup_pads _ _ _ _).sublist hall).map Pad.label_injective
  have hinside : ∀ label ∈ made (stages options t), ¬ IsInputPad label := by
    intro label hlabel
    rw [hmade] at hlabel
    obtain ⟨p, hp, rfl⟩ := List.mem_map.mp hlabel
    exact not_isInputPad_of_mem (hall.subset hp)
  have hlast : made (stages options t) =
      (Pad.pairs .clipPicture .clipSound 0 t.clips.length ++ inner).map Pad.label ++
        outputPads := by
    rw [hmade, List.map_append]
    rfl
  have hflow : Flow IsInputPad (stages options t) 0 outputPads := by
    have hclips := flow_clipStages options 0 t.clips
    rw [made_clipStages] at hclips
    exact hclips.append (flow_finish _ _ _ _)
  refine ⟨Stage.wellWired_of_flow hflow hnodup hinside fun label hlabel => ?_, _, hlast⟩
  exact hinside label (hlast ▸ List.mem_append_right _ hlabel)

end Montage.Plan
