import Montage.Proofs.Filter.Labels
import Montage.Proofs.Plan.Build

/-! Which inputs of the encoder the graph of a plan reads. Each text image gives its picture once,
the music gives its sound once, and nothing else but the source is read. -/
namespace Montage.Plan

open Stage (made read)

variable {options : PlanOptions} {t : Timeline Binary64} {label : String}

/-! ### All labels are pads -/

theorem Pad.isPlain_label (p : Pad) : Label.IsPlain p.label := by
  intro c hc
  have hletters : ∀ c ∈ p.letters, c ≠ '[' ∧ c ≠ ']' := by cases p <;> simp [letters]
  cases hdigit : c.isDigit with
  | true =>
    constructor <;> rintro rfl <;> exact absurd hdigit (by decide)
  | false =>
    refine hletters c ?_
    rw [← letters_label]
    exact List.mem_filter.mpr ⟨hc, by simp [hdigit]⟩

theorem exists_pad_of_made (h : label ∈ made (stages options t)) : ∃ p : Pad, label = p.label := by
  obtain ⟨inner, -, hfinish⟩ :=
    made_finish t.clips.length (captions t) (fades t) (mixedMusic? t options)
  rw [stages, Stage.made_append, made_clipStages, hfinish, ← List.map_append] at h
  obtain ⟨p, -, rfl⟩ := List.mem_map.mp h
  exact ⟨p, rfl⟩

theorem exists_pad {s : Stage (Filter Binary64)} (hs : s ∈ stages options t)
    (hlabel : label ∈ s.inputs ++ s.outputs) : ∃ p : Pad, label = p.label := by
  rcases List.mem_append.mp hlabel with hinput | houtput
  · obtain ⟨before, after, hsplit⟩ := List.append_of_mem hs
    rcases (wellWired_stages options t).1.made_before before s after hsplit label hinput with
      ⟨k, rfl | rfl⟩ | hmade
    · exact ⟨.inputPicture k, rfl⟩
    · exact ⟨.inputSound k, rfl⟩
    · have hall : label ∈ made (stages options t) := by
        rw [hsplit, Stage.made_append]
        exact List.mem_append_left _ hmade
      exact exists_pad_of_made hall
  · exact exists_pad_of_made (Stage.mem_made.mpr ⟨s, hs, houtput⟩)

/-- The labels that the written graph names. -/
theorem labels_eq (options : PlanOptions) (t : Timeline Binary64) :
    Label.ofText ((Graph.ofStages (stages options t)).render Filter.print) =
      (stages options t).flatMap fun s => s.inputs ++ s.outputs := by
  rw [Graph.labels_render, Graph.stages_ofStages]
  intro s hs label hlabel
  rw [Graph.stages_ofStages] at hs
  obtain ⟨p, rfl⟩ := exists_pad hs hlabel
  exact p.isPlain_label

/-- A label that begins with a digit is a pad of an input. -/
theorem isInputPad_of_isDigit {c : Char}
    (h : label ∈ Label.ofText ((Graph.ofStages (stages options t)).render Filter.print))
    (hc : label.toList.head? = some c) (hdigit : c.isDigit = true) : IsInputPad label := by
  rw [labels_eq] at h
  obtain ⟨s, hs, hlabel⟩ := List.mem_flatMap.mp h
  obtain ⟨p, rfl⟩ := exists_pad hs hlabel
  rw [isInputPad_label_iff]
  cases p with
  | inputPicture k => exact ⟨k, Or.inl rfl⟩
  | inputSound k => exact ⟨k, Or.inr rfl⟩
  | _ =>
    simp [Pad.label] at hc
    rw [← hc] at hdigit
    exact absurd hdigit (by decide)

/-! ### What each phase reads from outside -/

theorem not_isInputPad_label {p : Pad} (h : ∀ k, p ≠ .inputPicture k ∧ p ≠ .inputSound k) :
    ¬ IsInputPad p.label := by
  rw [isInputPad_label_iff]
  rintro ⟨k, rfl | rfl⟩
  · exact (h k).1 rfl
  · exact (h k).2 rfl

section Reads

variable {picture sound : String} (hlabel : IsInputPad label)

include hlabel

theorem count_inside {labels : List String} (h : ∀ other ∈ labels, ¬ IsInputPad other) :
    labels.count label = 0 :=
  List.count_eq_zero.mpr fun hmem => h label hmem hlabel

omit hlabel in
theorem count_read_clipStages {first : Nat} {clips : List (Clip Binary64)}
    (hsource : label ≠ (Pad.inputPicture 0).label ∧ label ≠ (Pad.inputSound 0).label) :
    (read (clipStages options first clips)).count label = 0 := by
  rw [Pad.label_inputPicture_zero, Pad.label_inputSound_zero] at hsource
  refine List.count_eq_zero.mpr fun hmem => ?_
  obtain ⟨s, hs, hread⟩ := Stage.mem_read.mp hmem
  obtain ⟨⟨c, index⟩, -, hs⟩ := List.mem_flatMap.mp hs
  rcases List.mem_pair.mp hs with rfl | rfl
  · exact hsource.1 (List.mem_singleton.mp hread)
  · exact hsource.2 (List.mem_singleton.mp hread)

/-- Fades read no input of the encoder, and leave none open. -/
theorem count_read_fadeStages (index : Nat) (fading : List (Overlay Binary64 × FadeDirection))
    (hpicture : ¬ IsInputPad picture) (hsound : ¬ IsInputPad sound) :
    (read (fadeStages index picture sound fading).1).count label = 0 ∧
      ¬ IsInputPad (fadeStages index picture sound fading).2.1 ∧
        ¬ IsInputPad (fadeStages index picture sound fading).2.2 := by
  induction fading generalizing index picture sound with
  | nil => exact ⟨rfl, hpicture, hsound⟩
  | cons fade rest ih =>
    have hnext := ih (index + 1) (not_isInputPad_label (p := .fadedPicture index) (by simp))
      (not_isInputPad_label (p := .fadedSound index) (by simp))
    rw [fadeStages_cons]
    refine ⟨?_, hnext.2⟩
    have hhead : [picture, sound].count label = 0 :=
      count_inside hlabel (by simp [hpicture, hsound])
    change ([picture, sound] ++ read _).count label = 0
    rw [List.count_append, hhead, hnext.1]

/-- Every caption reads the picture of its own input. -/
theorem count_read_textStages (index input : Nat) (texts : List (Caption Binary64))
    (hpicture : ¬ IsInputPad picture) :
    (read (textStages index input picture texts).1).count label =
        ((List.range' input texts.length).map fun k => (Pad.inputPicture k).label).count label ∧
      ¬ IsInputPad (textStages index input picture texts).2 := by
  induction texts generalizing index input picture with
  | nil => exact ⟨rfl, hpicture⟩
  | cons caption rest ih =>
    have hnext := ih (index + 1) (input + 1)
      (not_isInputPad_label (p := .captioned index) (by simp))
    rw [textStages_cons]
    refine ⟨?_, hnext.2⟩
    have himage : ¬ IsInputPad (Pad.image index).label := not_isInputPad_label (by simp)
    have hinside : [picture, (Pad.image index).label].count label = 0 :=
      count_inside hlabel (by simp [hpicture, himage])
    change ([(Pad.inputPicture input).label] ++ ([picture, (Pad.image index).label] ++
      read _)).count label = _
    rw [List.count_append, List.count_append, hinside, hnext.1, Nat.zero_add, ← List.count_append,
      List.length_cons, List.range'_succ]
    rfl

/-- The pads of the inputs that music is read from. -/
def musicReads (input : Nat) (music : Option (Music Binary64)) : List String :=
  music.toList.map fun _ => (Pad.inputSound input).label

theorem count_read_musicStages (input : Nat) (music : Option (Music Binary64))
    (hsound : ¬ IsInputPad sound) :
    (read (musicStages input sound music).1).count label = (musicReads input music).count label ∧
      ¬ IsInputPad (musicStages input sound music).2 := by
  cases music with
  | none => exact ⟨rfl, hsound⟩
  | some music =>
    have hmusic : ¬ IsInputPad Pad.music.label := not_isInputPad_label (by simp)
    have hmixed : ¬ IsInputPad Pad.mixed.label := not_isInputPad_label (by simp)
    have hinside : [sound, Pad.music.label].count label = 0 :=
      count_inside hlabel (by simp [hsound, hmusic])
    refine ⟨?_, hmixed⟩
    change ([(Pad.inputSound input).label] ++ [sound, Pad.music.label]).count label =
      [(Pad.inputSound input).label].count label
    rw [List.count_append, hinside, Nat.add_zero]

/-- After the clips, the images are read in order and then the music. -/
theorem count_read_finish (clips : Nat) (texts : List (Caption Binary64))
    (fading : List (Overlay Binary64 × FadeDirection)) (music : Option (Music Binary64)) :
    (read (finish clips texts fading music)).count label =
      ((List.range' 1 texts.length).map fun k => (Pad.inputPicture k).label).count label +
        (musicReads (1 + texts.length) music).count label := by
  have hconcat (picture sound : String) :
      (read [concatStage (α := Binary64) clips picture sound]).count label = 0 := by
    refine count_inside hlabel fun other hother => ?_
    obtain ⟨s, hs, hread⟩ := Stage.mem_read.mp hother
    rw [List.mem_singleton.mp hs] at hread
    obtain ⟨index, -, hread⟩ := List.mem_flatMap.mp hread
    rcases List.mem_pair.mp hread with rfl | rfl
    · exact not_isInputPad_label (p := .clipPicture index) (by simp)
    · exact not_isInputPad_label (p := .clipSound index) (by simp)
  rw [finish_eq]
  split
  · rename_i hnothing
    obtain ⟨htexts, -, hmusic⟩ := hnothing
    rw [hconcat, List.isEmpty_iff.mp htexts, Option.isNone_iff_eq_none.mp hmusic]
    rfl
  · obtain ⟨hfades, hpicture, hsound⟩ : (read (fadeRun fading).1).count label = 0 ∧
        ¬ IsInputPad (fadeRun fading).2.1 ∧ ¬ IsInputPad (fadeRun fading).2.2 :=
      count_read_fadeStages hlabel 0 fading (not_isInputPad_label (p := .joinedPicture) (by simp))
        (not_isInputPad_label (p := .joinedSound) (by simp))
    obtain ⟨htexts, hpicture⟩ : (read (textRun texts fading).1).count label = _ ∧
        ¬ IsInputPad (textRun texts fading).2 := count_read_textStages hlabel 0 1 texts hpicture
    obtain ⟨hmusic, hsound⟩ : (read (musicRun texts fading music).1).count label = _ ∧
        ¬ IsInputPad (musicRun texts fading music).2 :=
      count_read_musicStages hlabel (1 + texts.length) music hsound
    have hinside : [(textRun texts fading).2, (musicRun texts fading music).2].count label = 0 :=
      count_inside hlabel (by simp [hpicture, hsound])
    have hlast : (read [.single (textRun texts fading).2 (.pass : Filter Binary64)
        Pad.picture.label, .single (musicRun texts fading music).2 .passSound
          Pad.sound.label]).count label = 0 :=
      hinside
    rw [← List.singleton_append, Stage.read_append, List.count_append, hconcat, effectStages]
    simp only [Stage.read_append, List.count_append, hfades, htexts, hmusic, hlast]
    omega

/-- Beside the source, the graph of a plan reads the images and the music. -/
theorem count_labels (options : PlanOptions) (t : Timeline Binary64)
    (hsource : label ≠ (Pad.inputPicture 0).label ∧ label ≠ (Pad.inputSound 0).label) :
    (Label.ofText ((Graph.ofStages (stages options t)).render Filter.print)).count label =
      ((List.range' 1 (captions t).length).map fun k => (Pad.inputPicture k).label).count label +
        (musicReads (1 + (captions t).length) (mixedMusic? t options)).count label := by
  have hboth (stages : List (Stage (Filter Binary64))) :
      (stages.flatMap fun s => s.inputs ++ s.outputs).count label =
        (read stages).count label + (made stages).count label := by
    induction stages with
    | nil => rfl
    | cons s rest ih =>
      simp only [Stage.read, made, List.flatMap_cons, List.count_append] at ih ⊢
      omega
  have hmade : (made (stages options t)).count label = 0 :=
    List.count_eq_zero.mpr fun hmem => (wellWired_stages options t).1.made_inside label hmem hlabel
  rw [labels_eq, hboth, hmade, stages, Stage.read_append, List.count_append,
    count_read_clipStages hsource, count_read_finish hlabel, Nat.add_zero, Nat.zero_add]

end Reads

/-! ### The inputs by their numbers -/

theorem inputs_succ (t : Timeline Binary64) (options : PlanOptions) (k : Nat) :
    (inputs t options)[k + 1]? =
      if k < (captions t).length then
        (captions t)[k]?.map fun c => .textImage c.overlay c.words c.position (stillSeconds t)
      else ((mixedMusic? t options).toList.map
        fun music => .music music.keywords music.volume)[k - (captions t).length]? := by
  rw [inputs, List.cons_append, List.getElem?_cons_succ, List.getElem?_append, List.length_map,
    List.getElem?_map]

theorem any_isTextImage (t : Timeline Binary64) (options : PlanOptions) (k : Nat) :
    (inputs t options)[k + 1]?.any PlanInput.isTextImage = decide (k < (captions t).length) := by
  rw [inputs_succ]
  split
  · rename_i hk
    simp [hk, PlanInput.isTextImage]
  · rename_i hk
    simp only [hk, decide_false, List.getElem?_map, Option.any_map]
    cases (mixedMusic? t options).toList[k - (captions t).length]? <;> rfl

theorem any_isMusic (t : Timeline Binary64) (options : PlanOptions) (k : Nat) :
    (inputs t options)[k + 1]?.any PlanInput.isMusic =
      decide (k = (captions t).length ∧ (mixedMusic? t options).isSome) := by
  rw [inputs_succ]
  split
  · rename_i hk
    simp [hk, PlanInput.isMusic, Nat.ne_of_lt hk]
  · rename_i hk
    cases mixedMusic? t options with
    | none => simp
    | some music =>
      rcases Nat.eq_or_lt_of_le (Nat.le_of_not_lt hk) with rfl | hlater
      · simp [PlanInput.isMusic]
      · have hnone : k - (captions t).length ≠ 0 := by omega
        simp [hnone, Nat.ne_of_gt hlater]

/-- The graph reads the picture of every text image once, and of no other input but the source. -/
theorem count_picture (t : Timeline Binary64) (options : PlanOptions) (k : Nat) :
    (Label.ofText ((Graph.ofStages (stages options t)).render Filter.print)).count
        (Pad.inputPicture (k + 1)).label =
      if (inputs t options)[k + 1]?.any PlanInput.isTextImage then 1 else 0 := by
  have hlabel : IsInputPad (Pad.inputPicture (k + 1)).label := ⟨k + 1, Or.inl rfl⟩
  have hinjective : Function.Injective fun k => (Pad.inputPicture k).label :=
    fun i j h => Pad.inputPicture.inj (Pad.label_injective h)
  have hmusic : (musicReads (1 + (captions t).length) (mixedMusic? t options)).count
      (Pad.inputPicture (k + 1)).label = 0 := by
    refine List.count_eq_zero.mpr fun hmem => ?_
    obtain ⟨_, -, hsame⟩ := List.mem_map.mp hmem
    cases Pad.label_injective hsame
  rw [count_labels hlabel options t (by simp), hmusic, Nat.add_zero,
    List.count_map_of_injective _ _ hinjective, any_isTextImage,
    List.Nodup.count List.nodup_range']
  simp [List.mem_range'_1, Nat.add_comm 1]

/-- The graph reads the sound of the music once, and of no other input but the source. -/
theorem count_sound (t : Timeline Binary64) (options : PlanOptions) (k : Nat) :
    (Label.ofText ((Graph.ofStages (stages options t)).render Filter.print)).count
        (Pad.inputSound (k + 1)).label =
      if (inputs t options)[k + 1]?.any PlanInput.isMusic then 1 else 0 := by
  have hlabel : IsInputPad (Pad.inputSound (k + 1)).label := ⟨k + 1, Or.inr rfl⟩
  have himages : ((List.range' 1 (captions t).length).map fun k => (Pad.inputPicture k).label).count
      (Pad.inputSound (k + 1)).label = 0 := by
    refine List.count_eq_zero.mpr fun hmem => ?_
    obtain ⟨_, -, hsame⟩ := List.mem_map.mp hmem
    cases Pad.label_injective hsame
  rw [count_labels hlabel options t (by simp), himages, Nat.zero_add, any_isMusic]
  cases mixedMusic? t options with
  | none => simp [musicReads]
  | some music =>
    have hsame : ((Pad.inputSound (1 + (captions t).length)).label ==
        (Pad.inputSound (k + 1)).label) = decide (k = (captions t).length) := by
      rw [Bool.eq_iff_iff, beq_iff_eq, Pad.label_inj, Pad.inputSound.injEq, decide_eq_true_iff]
      omega
    change List.count _ [(Pad.inputSound (1 + (captions t).length)).label] = _
    rw [List.count_singleton, hsame]
    simp

end Montage.Plan
