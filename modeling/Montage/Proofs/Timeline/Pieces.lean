import Montage.Proofs.Clip.Placement
import Montage.Proofs.Clip.Split
import Montage.Proofs.Edit.Normal
import Montage.Timeline.Compile

/-! The clips of a compiled timeline are the pieces of the selection that no delete covers, in media
order. -/
namespace Montage

/-- A pick of a span, named for it. -/
def Pick.over {α : Type} [Scalar α] (span : Span α) : Pick α :=
  ⟨Segment.new span 0.5 Tags.none, ""⟩

namespace Timeline

variable {α : Type} [Scalar α] {picks : List (Pick α)} {edits : List (Edit α)} {duration : α}
  {c p : Clip α}

/-- The edits in the form in which compiling uses them. -/
def usable (picks : List (Pick α)) (edits : List (Edit α)) (duration : α) : List (Edit α) :=
  Edit.normalized (mediaLimit picks duration) edits

/-- The selection after cutting and before deleting. -/
def pieces (picks : List (Pick α)) (edits : List (Edit α)) (duration : α) : List (Clip α) :=
  let edits := usable picks edits duration
  Clip.splitAll (splitMargin edits) (Edit.boundaries edits)
    (baseClips picks (mediaLimit picks duration))

/-- What is not deleted, with its attributes. -/
def retained (edits : List (Edit α)) (clips : List (Clip α)) : List (Clip α) :=
  (clips.filter (!deleted edits ·)).map (Clip.attach edits)

theorem survivors_eq (edits : List (Edit α)) (clips : List (Clip α)) :
    survivors edits clips =
      retained edits (Clip.splitAll (splitMargin edits) (Edit.boundaries edits) clips) := rfl

theorem compile_clips (picks : List (Pick α)) (edits : List (Edit α)) (duration : α) :
    (compile picks edits duration).clips =
      (Clip.place (retained (usable picks edits duration) (pieces picks edits duration))).1 := rfl

theorem compile_total (picks : List (Pick α)) (edits : List (Edit α)) (duration : α) :
    (compile picks edits duration).total =
      (Clip.place (retained (usable picks edits duration) (pieces picks edits duration))).2 := rfl

theorem unplaced_compile (picks : List (Pick α)) (edits : List (Edit α)) (duration : α) :
    (compile picks edits duration).clips.map Clip.unplaced =
      (Clip.inMediaOrder (retained (usable picks edits duration)
        (pieces picks edits duration))).map Clip.unplaced := by
  rw [compile_clips, Clip.place_eq, Clip.unplaced_placeFrom]

/-- What neither attributes nor places touch holds of any two clips, in either order, if it holds of
the pieces. -/
theorem pairwise_clips {β : Type} {f : Clip α → β} {R : β → β → Prop}
    (hplaced : ∀ c, f c.unplaced = f c) (hattach : ∀ es c, f (Clip.attach es c) = f c)
    (hsymm : ∀ x y, R x y → R y x)
    (h : (pieces picks edits duration).Pairwise fun a b => R (f a) (f b)) :
    (compile picks edits duration).clips.Pairwise fun a b => R (f a) (f b) := by
  refine Clip.pairwise_of_unplaced hplaced (unplaced_compile picks edits duration) ?_
  rw [(Clip.inMediaOrder_perm _).pairwise_iff fun hab => hsymm _ _ hab, retained, List.pairwise_map]
  simp only [hattach]
  exact h.filter _

/-- Where the points and the pieces come in order, nothing is left to sort. -/
theorem compile_of_pairwise {es : List (Edit α)} (points : List α)
    (hes : usable picks edits duration = es) (hpoints : withoutRepeats (Edit.points es) = points)
    (hordered : (Edit.points es).Pairwise fun x y => Scalar.precedes x y)
    (hsorted : (retained es (Clip.splitAll (splitMargin es) points
      (baseClips picks (mediaLimit picks duration)))).Pairwise fun a b =>
        Scalar.precedes a.span.start b.span.start) :
    ((compile picks edits duration).clips, (compile picks edits duration).total) =
      Clip.placeFrom 0 (retained es (Clip.splitAll (splitMargin es) points
        (baseClips picks (mediaLimit picks duration)))) := by
  rw [compile_clips, compile_total, pieces, hes, Edit.boundaries_of_pairwise hordered, hpoints,
    Clip.place_eq, Clip.inMediaOrder_of_pairwise hsorted]

/-- Each clip is an undeleted piece with its attributes and its place. -/
theorem exists_piece (h : c ∈ (compile picks edits duration).clips) :
    ∃ p ∈ pieces picks edits duration, deleted (usable picks edits duration) p = false ∧
      c.unplaced = (Clip.attach (usable picks edits duration) p).unplaced := by
  have hc := List.mem_map_of_mem (f := Clip.unplaced) h
  rw [unplaced_compile, List.mem_map] at hc
  obtain ⟨r, hr, heq⟩ := hc
  rw [(Clip.inMediaOrder_perm _).mem_iff, retained, List.mem_map] at hr
  obtain ⟨p, hp, rfl⟩ := hr
  obtain ⟨hp, hkept⟩ := List.mem_filter.mp hp
  exact ⟨p, hp, by simpa using hkept, heq.symm⟩

/-- Each undeleted piece is a clip. -/
theorem exists_clip (hp : p ∈ pieces picks edits duration)
    (hkept : deleted (usable picks edits duration) p = false) :
    ∃ c ∈ (compile picks edits duration).clips,
      c.unplaced = (Clip.attach (usable picks edits duration) p).unplaced := by
  have hr : Clip.attach (usable picks edits duration) p ∈
      retained (usable picks edits duration) (pieces picks edits duration) :=
    List.mem_map_of_mem (List.mem_filter.mpr ⟨hp, by simp [hkept]⟩)
  have hmap := List.mem_map_of_mem (f := Clip.unplaced)
    ((Clip.inMediaOrder_perm _).mem_iff.mpr hr)
  rw [← unplaced_compile, List.mem_map] at hmap
  exact hmap

theorem span_of_attach {edits : List (Edit α)}
    (h : c.unplaced = (Clip.attach edits p).unplaced) : c.span = p.span :=
  congrArg (·.span) h

theorem duration_of_attach {edits : List (Edit α)}
    (h : c.unplaced = (Clip.attach edits p).unplaced) : c.duration = p.duration :=
  congrArg (·.duration) h

/-- A base clip is the whole media, or a pick of some length. -/
theorem eq_of_mem_baseClips {limit : α} (h : c ∈ baseClips picks limit) :
    (0 < limit ∧ c = .source "base-clip" ⟨0, limit⟩) ∨
      ∃ pick ∈ picks, 0 < (Clip.source pick.id pick.span).duration ∧ c = .ofPick pick := by
  unfold baseClips at h
  split at h
  · split at h
    · rename_i hlimit
      exact Or.inl ⟨hlimit, List.mem_singleton.mp h⟩
    · cases h
  · obtain ⟨hpick, hpos⟩ := List.mem_filter.mp h
    obtain ⟨pick, hmem, rfl⟩ := List.mem_map.mp hpick
    exact Or.inr ⟨pick, hmem, of_decide_eq_true hpos, rfl⟩

theorem pairwise_baseClips {R : Clip α → Clip α → Prop} (limit : α)
    (h : (picks.map Clip.ofPick).Pairwise R) : (baseClips picks limit).Pairwise R := by
  unfold baseClips
  split
  · split
    · exact List.pairwise_singleton _ _
    · exact List.Pairwise.nil
  · exact h.filter _

theorem mediaLimit_of_known (hfinite : Scalar.isFinite duration) (hpos : 0 < duration)
    (picks : List (Pick α)) : mediaLimit picks duration = duration :=
  if_pos ⟨hfinite, hpos⟩

theorem deleted_iff {edits : List (Edit α)} :
    deleted edits c = true ↔ ∃ r, .delete r ∈ edits ∧ r.Covers deleteSlack c.span := by
  simp only [deleted, List.any_eq_true]
  constructor
  · rintro ⟨e, he, hcovers⟩
    cases e with
    | delete r => exact ⟨r, he, of_decide_eq_true hcovers⟩
    | _ => cases hcovers
  · rintro ⟨r, hr, hcovers⟩
    exact ⟨.delete r, hr, decide_eq_true hcovers⟩

section Lawful

variable [LawfulScalar α]

theorem splitMargin_nonneg (edits : List (Edit α)) : 0 ≤ splitMargin edits := by
  unfold splitMargin
  split <;> exact LawfulScalar.decimal_nonneg _ _

theorem measured_source (id : String) {span : Span α} (h : span.start < span.stop) :
    (Clip.source id span).Measured :=
  ⟨h, Scalar.max_zero_of_pos (LawfulScalar.sub_pos.mpr h)⟩

theorem duration_source_pos_iff (id : String) {span : Span α} :
    0 < (Clip.source id span).duration ↔ span.start < span.stop := by
  constructor
  · exact fun h => LawfulScalar.sub_pos.mp (Scalar.pos_of_max_pos h)
  · intro h
    rw [(measured_source id h).duration_eq]
    exact LawfulScalar.sub_pos.mpr h

theorem measured_of_mem_baseClips {limit : α} (h : c ∈ baseClips picks limit) : c.Measured := by
  rcases eq_of_mem_baseClips h with ⟨hlimit, rfl⟩ | ⟨pick, -, hsource, rfl⟩
  · exact measured_source _ hlimit
  · have hmeasured := measured_source pick.id ((duration_source_pos_iff _).mp hsource)
    exact ⟨hmeasured.forward, hmeasured.duration_eq⟩

theorem measured_of_mem_pieces (h : p ∈ pieces picks edits duration) : p.Measured :=
  Clip.measured_of_mem_splitAll (splitMargin_nonneg _)
    (fun _ hc => measured_of_mem_baseClips hc) p h

theorem saturated_of_mem_pieces (h : p ∈ pieces picks edits duration) :
    p.Saturated (splitMargin (usable picks edits duration))
      (Edit.boundaries (usable picks edits duration)) :=
  Clip.saturated_of_mem_splitAll (splitMargin_nonneg _)
    (fun _ hc => measured_of_mem_baseClips hc) p h

theorem measured_of_mem_clips (h : c ∈ (compile picks edits duration).clips) : c.Measured := by
  obtain ⟨p, hp, -, heq⟩ := exists_piece h
  have hmeasured := measured_of_mem_pieces hp
  have hspan := span_of_attach heq
  refine ⟨hspan ▸ hmeasured.forward, ?_⟩
  rw [duration_of_attach heq, hspan]
  exact hmeasured.duration_eq

end Lawful

end Timeline

end Montage

/-! Where pieces can lie. None starts before zero, and no end of a cutting edit, once rounded, is
well inside one. -/
namespace Montage.Timeline

variable {picks : List (Pick Rat)} {edits : List (Edit Rat)} {duration t : Rat} {p : Clip Rat}
  {e : Edit Rat} {r : Span Rat}

theorem start_nonneg_of_mem_pieces (hstarts : ∀ pick ∈ picks, 0 ≤ pick.span.start)
    (h : p ∈ pieces picks edits duration) : 0 ≤ p.span.start := by
  have hbase : ∀ c ∈ baseClips picks (mediaLimit picks duration), 0 ≤ c.span.start := by
    intro c hc
    rcases eq_of_mem_baseClips hc with ⟨-, rfl⟩ | ⟨pick, hpick, -, rfl⟩
    · exact le_refl (0 : Rat)
    · exact hstarts pick hpick
  refine (Clip.splitAll_induction (P := fun c : Clip Rat => c.Measured ∧ 0 ≤ c.span.start) ?_
    (fun c hc => ⟨measured_of_mem_baseClips hc, hbase c hc⟩) p h).2
  intro c hc point d hd
  have hwithin := Clip.within_of_mem_splitAt (splitMargin_nonneg _) hc.1 hd
  exact ⟨Clip.measured_of_mem_splitAt (splitMargin_nonneg _) hc.1 hd,
    le_trans hc.2 hwithin.1⟩

/-- A positive end of an edit that cuts, rounded, is within the split margin of an end of each
piece, or outside the piece. -/
theorem outside_of_end (hp : p ∈ pieces picks edits duration)
    (he : e ∈ usable picks edits duration) (hcuts : e.isOverlay = false) (hr : e.span? = some r)
    (ht : t = r.start ∨ t = r.stop) (hpos : 0 < t) :
    Scalar.roundTo t 2 ≤ p.span.start + splitMargin (usable picks edits duration) ∨
      p.span.stop - splitMargin (usable picks edits duration) ≤ Scalar.roundTo t 2 := by
  have hends : t ∈ e.ends := by
    rcases ht with rfl | rfl <;> simp [Edit.ends, hcuts, hr]
  have hpoint := Edit.mem_boundaries.mpr ⟨e, he, t, hends, hpos, rfl⟩
  rcases not_and_or.mp (saturated_of_mem_pieces hp _ hpoint) with h | h
  · exact Or.inl (not_lt.mp h)
  · exact Or.inr (not_lt.mp h)

end Montage.Timeline
