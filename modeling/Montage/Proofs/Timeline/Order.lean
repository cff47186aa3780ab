import Montage.Proofs.Timeline.Pieces

/-! Clips of a selection without overlaps stay apart through cutting, deleting and sorting, so that
a compiled timeline runs forward through the media. -/
namespace Montage

/-- Some clip of the timeline holds the media instant. -/
def Timeline.Keeps {α : Type} [Scalar α] (T : Timeline α) (t : α) : Prop :=
  ∃ c ∈ T.clips, c.span.Holds t

namespace Span

theorem apart_comm {a b : Span Rat} (h : a.Apart b) : b.Apart a :=
  fun t ht => h t ht.symm

end Span

namespace Clip

variable {clips : List (Clip Rat)} {c : Clip Rat} {margin : Rat} {points : List Rat}

theorem forward_of_mem_splitAll (hm : 0 ≤ margin) (hc : c.Measured) :
    ∀ s ∈ (splitAll margin points [c]).map (·.span), s.start < s.stop := by
  intro s hs
  obtain ⟨d, hd, rfl⟩ := List.mem_map.mp hs
  refine (measured_of_mem_splitAll hm ?_ d hd).forward
  intro e he
  rw [List.mem_singleton.mp he]
  exact hc

theorem within_of_mem_splitAll (hm : 0 ≤ margin) (hc : c.Measured) {d : Clip Rat}
    (hd : d ∈ splitAll margin points [c]) : d.span.Within c.span :=
  Span.within_of_tiles (tiles_splitAll margin points c) (forward_of_mem_splitAll hm hc) d.span
    (List.mem_map_of_mem hd)

/-- Cutting keeps clips apart: the pieces of one clip follow each other, and those of two clips lie
in spans that are apart. -/
theorem apart_splitAll (hm : 0 ≤ margin) (hclips : ∀ c ∈ clips, c.Measured)
    (hapart : clips.Pairwise fun a b => a.span.Apart b.span) :
    (splitAll margin points clips).Pairwise fun a b => a.span.Apart b.span := by
  rw [splitAll_eq_flatMap, List.pairwise_flatMap]
  constructor
  · intro c hc
    have hpairwise := Span.pairwise_of_tiles (tiles_splitAll margin points c)
      (forward_of_mem_splitAll hm (hclips c hc))
    exact (List.pairwise_map.mp hpairwise).imp Span.apart_of_le
  · refine hapart.imp_of_mem ?_
    intro a b ha hb hab x hx y hy
    exact Span.apart_of_within (within_of_mem_splitAll hm (hclips a ha) hx)
      (within_of_mem_splitAll hm (hclips b hb) hy) hab

end Clip

namespace Timeline

variable {picks : List (Pick Rat)} {edits : List (Edit Rat)} {duration : Rat}

theorem apart_baseClips (limit : Rat) (hapart : picks.Pairwise fun a b => a.span.Apart b.span) :
    (baseClips picks limit).Pairwise fun a b => a.span.Apart b.span :=
  pairwise_baseClips limit (List.pairwise_map.mpr hapart)

theorem apart_pieces (hapart : picks.Pairwise fun a b => a.span.Apart b.span) :
    (pieces picks edits duration).Pairwise fun a b => a.span.Apart b.span :=
  Clip.apart_splitAll (splitMargin_nonneg _) (fun _ hc => measured_of_mem_baseClips hc)
    (apart_baseClips _ hapart)

theorem apart_clips (hapart : picks.Pairwise fun a b => a.span.Apart b.span) :
    (compile picks edits duration).clips.Pairwise fun a b => a.span.Apart b.span :=
  pairwise_clips (f := (·.span)) (fun _ => rfl) (fun _ _ => rfl) (fun _ _ => Span.apart_comm)
    (apart_pieces hapart)

theorem sorted_clips (picks : List (Pick Rat)) (edits : List (Edit Rat)) (duration : Rat) :
    (compile picks edits duration).clips.Pairwise fun a b => a.span.start ≤ b.span.start := by
  refine Clip.pairwise_of_unplaced (f := fun c => c.span.start) (R := (· ≤ ·)) (fun _ => rfl)
    (unplaced_compile picks edits duration) ?_
  exact (Clip.pairwise_inMediaOrder _).imp fun h => of_decide_eq_true h

/-- Each clip starts at the stop of an earlier one or after it. -/
theorem ordered_clips (hapart : picks.Pairwise fun a b => a.span.Apart b.span) :
    (compile picks edits duration).clips.Pairwise fun a b => a.span.stop ≤ b.span.start := by
  refine ((sorted_clips picks edits duration).and (apart_clips hapart)).imp_of_mem ?_
  rintro a b ha hb ⟨hstart, hab⟩
  have hfa := (measured_of_mem_clips ha).forward
  have hfb := (measured_of_mem_clips hb).forward
  rcases Span.le_or_le_of_apart hfa hfb hab with h | h
  · exact h
  · exact absurd (lt_of_lt_of_le hfb h) (not_lt.mpr hstart)

end Timeline

end Montage
