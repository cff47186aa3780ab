import Montage.Number.Floating
import Montage.Proofs.Edit.Normal
import Montage.Proofs.Number.Binary64
import Montage.Proofs.Timeline.Pieces

/-! Compiling its own clips again changes nothing. No clip of a timeline can be cut or deleted, and
its attributes and its order depend on its span alone. -/
namespace Montage

/-- The pick selects what the clip shows, under the same name and for the same reason. -/
def Pick.Restates {α : Type} (p : Pick α) (c : Clip α) : Prop :=
  p.id = c.id ∧ p.span = c.span ∧ p.reason = c.reason.getD ""

/-- A selection of what the clip shows. -/
def Pick.ofClip {α : Type} [Scalar α] (c : Clip α) : Pick α :=
  ⟨⟨c.id, c.span, c.duration, 0, Tags.none⟩, c.reason.getD ""⟩

theorem Pick.restates_ofClip {α : Type} [Scalar α] (clips : List (Clip α)) :
    List.Forall₂ Pick.Restates (clips.map Pick.ofClip) clips := by
  induction clips with
  | nil => exact List.Forall₂.nil
  | cons c rest ih => exact List.Forall₂.cons ⟨rfl, rfl, rfl⟩ ih

theorem Pick.map_eq_of_restates {α β : Type} {picks : List (Pick α)} {clips : List (Clip α)}
    {f : Pick α → β} {g : Clip α → β} (h : List.Forall₂ Pick.Restates picks clips)
    (hfg : ∀ p, ∀ c ∈ clips, p.Restates c → f p = g c) : picks.map f = clips.map g := by
  induction h with
  | nil => rfl
  | cons hhead htail ih =>
    rw [List.map_cons, List.map_cons, hfg _ _ List.mem_cons_self hhead,
      ih fun p c hc => hfg p c (List.mem_cons_of_mem _ hc)]

namespace Clip

variable {α : Type} [Scalar α] {edits : List (Edit α)} {c d : Clip α}

theorem covering?_congr (kind : EditKind) (h : c.span = d.span) :
    covering? kind edits c = covering? kind edits d := by
  unfold covering?
  rw [h]

theorem shownEdit?_congr (h : c.span = d.span) : shownEdit? edits c = shownEdit? edits d := by
  unfold shownEdit?
  rw [covering?_congr _ h, covering?_congr _ h]

theorem rateOf_congr (h : c.span = d.span) : rateOf edits c = rateOf edits d := by
  unfold rateOf
  rw [shownEdit?_congr h]

theorem volumeOf_congr (h : c.span = d.span) : volumeOf edits c = volumeOf edits d := by
  unfold volumeOf
  rw [covering?_congr _ h]

theorem transformOf_congr (h : c.span = d.span) : transformOf edits c = transformOf edits d := by
  unfold transformOf
  rw [covering?_congr _ h]

/-- Apart from its place, a clip with attributes is told by its name, span, length and reason. -/
theorem unplaced_attach_congr (hid : c.id = d.id) (hspan : c.span = d.span)
    (hduration : c.duration = d.duration) (hreason : c.reason = d.reason) :
    (attach edits c).unplaced = (attach edits d).unplaced := by
  simp only [attach, unplaced, rateOf_congr hspan, shownEdit?_congr hspan, volumeOf_congr hspan,
    transformOf_congr hspan, hid, hspan, hduration, hreason]

end Clip

namespace Timeline

variable {α : Type} [Scalar α] {picks picks' : List (Pick α)} {edits : List (Edit α)}
  {duration : α} {c p : Clip α} {pick : Pick α}

theorem deleted_congr {d : Clip α} (h : c.span = d.span) : deleted edits c = deleted edits d := by
  unfold deleted
  rw [h]

theorem reason_ne_of_mem_baseClips {limit : α} (h : c ∈ baseClips picks limit) :
    c.reason ≠ some "" := by
  rcases eq_of_mem_baseClips h with ⟨-, rfl⟩ | ⟨pick, -, -, rfl⟩
  · simp [Clip.source]
  · unfold Clip.ofPick
    dsimp only
    split
    · simp
    · rename_i hreason
      intro heq
      rw [Option.some.inj heq] at hreason
      exact hreason rfl

theorem reason_ne_of_mem_pieces (h : p ∈ pieces picks edits duration) : p.reason ≠ some "" := by
  refine Clip.splitAll_induction (P := fun p => p.reason ≠ some "") ?_
    (fun _ hc => reason_ne_of_mem_baseClips hc) p h
  intro c hc point d hd
  rcases Clip.mem_splitAt.mp hd with ⟨-, rfl | rfl⟩ | ⟨-, rfl⟩ <;> exact hc

theorem reason_ofPick (hreason : c.reason ≠ some "") (h : pick.reason = c.reason.getD "") :
    (Clip.ofPick pick).reason = c.reason := by
  unfold Clip.ofPick
  dsimp only
  rw [h]
  cases hc : c.reason with
  | none => rfl
  | some reason =>
    have hne : reason ≠ "" := fun heq => hreason (hc.trans (congrArg some heq))
    simp [String.isEmpty_iff, hne]

theorem ofClips_congr {clips others : List (Clip α)}
    (h : Clip.place (survivors edits clips) = Clip.place (survivors edits others)) :
    ofClips edits clips = ofClips edits others := by
  unfold ofClips
  rw [h]

/-- A pick that restates a clip of the timeline is neither cut nor deleted. -/
theorem exists_piece_of_restates (h : List.Forall₂ Pick.Restates picks'
      (compile picks edits duration).clips) (hc : c ∈ picks'.map Clip.ofPick) :
    ∃ p ∈ pieces picks edits duration,
      deleted (usable picks edits duration) p = false ∧ c.span = p.span := by
  have hspans : (picks'.map Clip.ofPick).map (·.span) =
      (compile picks edits duration).clips.map (·.span) := by
    rw [List.map_map]
    exact Pick.map_eq_of_restates h fun _ _ _ hrestates => hrestates.2.1
  have hmem := List.mem_map_of_mem (f := (·.span)) hc
  rw [hspans, List.mem_map] at hmem
  obtain ⟨d, hd, hspan⟩ := hmem
  obtain ⟨p, hp, hkept, heq⟩ := exists_piece hd
  exact ⟨p, hp, hkept, hspan.symm.trans (span_of_attach heq)⟩

section Lawful

variable [LawfulScalar α]

/-- A pick that restates a clip of the timeline gives a clip with the same attributes. -/
theorem unplaced_attach_ofPick (hc : c ∈ (compile picks edits duration).clips)
    (h : pick.Restates c) :
    (Clip.attach (usable picks edits duration) (Clip.ofPick pick)).unplaced = c.unplaced := by
  obtain ⟨p, hp, -, heq⟩ := exists_piece hc
  obtain ⟨hid, hspan, hreason⟩ := h
  have hcspan := span_of_attach heq
  have hmeasured := measured_of_mem_clips hc
  have hforward : pick.span.start < pick.span.stop := hspan ▸ hmeasured.forward
  have hsource := measured_source pick.id hforward
  have hne : c.reason ≠ some "" := by
    rw [show c.reason = p.reason from congrArg (·.reason) heq]
    exact reason_ne_of_mem_pieces hp
  rw [heq]
  apply Clip.unplaced_attach_congr
  · exact hid.trans (congrArg (·.id) heq)
  · exact hspan.trans hcspan
  · rw [← duration_of_attach heq, hmeasured.duration_eq, ← hspan]
    exact hsource.duration_eq
  · exact (reason_ofPick hne hreason).trans (congrArg (·.reason) heq)

theorem baseClips_of_restates (h : List.Forall₂ Pick.Restates picks'
      (compile picks edits duration).clips) (hne : picks' ≠ []) (limit : α) :
    baseClips picks' limit = picks'.map Clip.ofPick := by
  have hnonempty : ¬ picks'.isEmpty = true := by simpa using hne
  rw [baseClips, if_neg hnonempty, List.filter_eq_self]
  intro c hc
  obtain ⟨p, hp, -, hspan⟩ := exists_piece_of_restates h hc
  obtain ⟨pick, -, rfl⟩ := List.mem_map.mp hc
  apply decide_eq_true
  have hforward : pick.span.start < pick.span.stop := by
    rw [show pick.span = p.span from hspan]
    exact (measured_of_mem_pieces hp).forward
  exact (duration_source_pos_iff pick.id).mpr hforward

theorem survivors_of_restates (h : List.Forall₂ Pick.Restates picks'
      (compile picks edits duration).clips) :
    survivors (usable picks edits duration) (picks'.map Clip.ofPick) =
      (picks'.map Clip.ofPick).map (Clip.attach (usable picks edits duration)) := by
  have huncut : ∀ c ∈ picks'.map Clip.ofPick,
      c.Saturated (splitMargin (usable picks edits duration))
        (Edit.boundaries (usable picks edits duration)) := by
    intro c hc point hpoint
    obtain ⟨p, hp, -, hspan⟩ := exists_piece_of_restates h hc
    have hp := saturated_of_mem_pieces hp point hpoint
    rwa [Clip.Splits, ← hspan] at hp
  rw [survivors_eq, Clip.splitAll_of_saturated huncut, retained]
  congr 1
  rw [List.filter_eq_self]
  intro c hc
  obtain ⟨p, -, hkept, hspan⟩ := exists_piece_of_restates h hc
  rw [deleted_congr hspan, hkept]
  rfl

/-- The clips that restate a timeline are placed as they were. -/
theorem place_restated (hne : picks' ≠ []) (limit : α)
    (h : List.Forall₂ Pick.Restates picks' (compile picks edits duration).clips) :
    Clip.place (survivors (usable picks edits duration) (baseClips picks' limit)) =
      Clip.place (retained (usable picks edits duration) (pieces picks edits duration)) := by
  have hagain : ((picks'.map Clip.ofPick).map (Clip.attach (usable picks edits duration))).map
      Clip.unplaced = (compile picks edits duration).clips.map Clip.unplaced := by
    rw [List.map_map, List.map_map]
    exact Pick.map_eq_of_restates h fun _ _ hc hrestates => unplaced_attach_ofPick hc hrestates
  -- Sorting is stable and placing ignores old places, so what agrees before placing agrees after.
  rw [unplaced_compile] at hagain
  rw [baseClips_of_restates h hne, survivors_of_restates h]
  exact Clip.place_of_unplaced_eq hagain

end Lawful

/-- Compiling the same edits over the clips of the result gives the result again. -/
theorem compile_restated (picks picks' : List (Pick Binary64)) (edits : List (Edit Binary64))
    (duration : Binary64) (hfinite : Scalar.isFinite duration = true) (hpos : 0 < duration)
    (hne : (compile picks edits duration).clips ≠ [])
    (h : List.Forall₂ Pick.Restates picks' (compile picks edits duration).clips) :
    compile picks' edits duration = compile picks edits duration := by
  have hne' : picks' ≠ [] := by
    intro hnil
    rw [hnil, List.forall₂_nil_left_iff] at h
    exact hne h
  have hlimit (picks : List (Pick Binary64)) : mediaLimit picks duration = duration :=
    mediaLimit_of_known hfinite hpos picks
  have hplace := place_restated hne' duration h
  rw [usable, pieces, usable, hlimit] at hplace
  simp only [compile, hlimit]
  exact ofClips_congr hplace

theorem compile_restated_of_delete :
    let picks : List (Pick Binary64) := [.over ⟨0, 10⟩]
    let edits : List (Edit Binary64) := [.delete ⟨4, 6⟩]
    let T := compile picks edits 10
    T.clips ≠ [] ∧ compile (T.clips.map Pick.ofClip) edits 10 = T := by
  intro picks edits T
  have husable : usable picks edits 10 = [.delete ⟨4, 6⟩] := by decide +kernel
  have hpoints : Edit.boundaries (usable picks edits 10) = [4, 6] := by
    rw [husable, Edit.boundaries_of_pairwise (by decide +kernel)]
    decide +kernel
  have hlast : ((pieces picks edits 10).filter (!deleted (usable picks edits 10) ·)) ≠ [] := by
    rw [pieces, hpoints, husable]
    decide +kernel
  obtain ⟨p, hp⟩ := List.exists_mem_of_ne_nil _ hlast
  obtain ⟨hp, hkept⟩ := List.mem_filter.mp hp
  obtain ⟨c, hc, -⟩ := exists_clip hp (by simpa using hkept)
  have hne : T.clips ≠ [] := List.ne_nil_of_mem hc
  exact ⟨hne, compile_restated picks _ edits 10 (by decide +kernel) (by decide +kernel) hne
    (Pick.restates_ofClip T.clips)⟩

end Timeline

end Montage
