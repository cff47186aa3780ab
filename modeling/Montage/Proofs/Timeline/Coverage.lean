import Mathlib
import Montage.Proofs.Timeline.Order
import Montage.Timeline.Basic

/-! Nothing but deleted media is lost, and nothing is shown twice. -/
namespace Montage.Timeline

section Definitions

variable {α : Type} [Scalar α]

/-- What the selection spans; without one, the whole media. -/
def baseSpans (picks : List (Pick α)) (duration : α) : List (Span α) :=
  if picks.isEmpty then [⟨0, duration⟩] else picks.map (·.span)

end Definitions

variable {picks : List (Pick Rat)} {edits : List (Edit Rat)} {duration : Rat} {c p b : Clip Rat}
  {s : Span Rat} {t : Rat}

theorem mediaLimit_nil_of_not_pos (h : ¬ 0 < duration) : mediaLimit [] duration = 0 :=
  if_neg fun hknown => h hknown.2

/-- Of what is spanned, the parts that run forward are cut. -/
theorem span_baseClips (picks : List (Pick Rat)) (duration : Rat) :
    (baseClips picks (mediaLimit picks duration)).map (·.span) =
      (baseSpans picks duration).filter fun s => s.start < s.stop := by
  cases picks with
  | nil =>
    by_cases hpos : 0 < duration
    · rw [mediaLimit_of_known (Rational.isFinite_eq_true duration) hpos]
      simp [baseClips, baseSpans, Clip.source, hpos]
    · rw [mediaLimit_nil_of_not_pos hpos]
      simp [baseClips, baseSpans, hpos]
  | cons first rest =>
    simp only [baseClips, baseSpans, List.isEmpty_cons, Bool.false_eq_true, if_false]
    rw [List.filter_map, List.filter_map, List.map_map]
    congr 1
    apply List.filter_congr
    intro pick _
    exact decide_eq_decide.mpr (duration_source_pos_iff pick.id)

theorem apart_baseSpans (duration : Rat)
    (hapart : picks.Pairwise fun a b => a.span.Apart b.span) :
    (baseSpans picks duration).Pairwise Span.Apart := by
  unfold baseSpans
  split
  · exact List.pairwise_singleton _ _
  · exact List.pairwise_map.mpr hapart

theorem mem_pieces_iff : p ∈ pieces picks edits duration ↔
    ∃ b ∈ baseClips picks (mediaLimit picks duration),
      p ∈ Clip.splitAll (splitMargin (usable picks edits duration))
        (Edit.boundaries (usable picks edits duration)) [b] := by
  rw [pieces, Clip.splitAll_eq_flatMap, List.mem_flatMap]

theorem exists_baseSpan (hp : p ∈ pieces picks edits duration) :
    ∃ s ∈ baseSpans picks duration, p.span.Within s := by
  obtain ⟨b, hb, hpb⟩ := mem_pieces_iff.mp hp
  have hspan := List.mem_map_of_mem (f := (·.span)) hb
  rw [span_baseClips] at hspan
  exact ⟨b.span, (List.mem_filter.mp hspan).1,
    Clip.within_of_mem_splitAll (splitMargin_nonneg _) (measured_of_mem_baseClips hb) hpb⟩

/-- The pieces hold every instant that the selection holds. -/
theorem exists_piece_holds (edits : List (Edit Rat)) (hs : s ∈ baseSpans picks duration)
    (ht : s.Holds t) :
    ∃ p ∈ pieces picks edits duration, p.span.Holds t := by
  have hforward : s.start < s.stop := lt_of_le_of_lt ht.1 ht.2
  have hmem : s ∈ (baseClips picks (mediaLimit picks duration)).map (·.span) := by
    rw [span_baseClips]
    exact List.mem_filter.mpr ⟨hs, decide_eq_true hforward⟩
  obtain ⟨b, hb, rfl⟩ := List.mem_map.mp hmem
  obtain ⟨r, hr, hrt⟩ := (Span.holds_iff_of_tiles (Clip.tiles_splitAll _ _ b)
    (Clip.forward_of_mem_splitAll (splitMargin_nonneg (usable picks edits duration))
      (measured_of_mem_baseClips hb))).mp ht
  obtain ⟨p, hp, rfl⟩ := List.mem_map.mp hr
  exact ⟨p, mem_pieces_iff.mpr ⟨b, hb, hp⟩, hrt⟩

/-- An instant that was spanned and is not kept lies in a deleted piece, and so near a delete. -/
theorem keeps_or_reaches (edits : List (Edit Rat)) (hs : s ∈ baseSpans picks duration)
    (ht : s.Holds t) :
    (compile picks edits duration).Keeps t ∨
      ∃ r, .delete r ∈ usable picks edits duration ∧ r.Reaches 0.02 t := by
  obtain ⟨p, hp, hpt⟩ := exists_piece_holds edits hs ht
  cases hdeleted : deleted (usable picks edits duration) p with
  | false =>
    obtain ⟨c, hc, heq⟩ := exists_clip hp hdeleted
    exact Or.inl ⟨c, hc, by rwa [span_of_attach heq]⟩
  | true =>
    obtain ⟨r, hr, hstart, hstop⟩ := deleted_iff.mp hdeleted
    have hstart : r.start ≤ p.span.start + 0.02 := hstart
    have hstop : p.span.stop - 0.02 ≤ r.stop := hstop
    obtain ⟨hlow, hhigh⟩ := Span.holds_iff.mp hpt
    have hlow' : r.start - 0.02 ≤ t := by linarith
    have hhigh' : t ≤ r.stop + 0.02 := by linarith
    exact Or.inr ⟨r, hr, hlow', hhigh'⟩

/-- A clip lies in one span of the selection only. -/
theorem existsUnique_baseSpan (hapart : picks.Pairwise fun a b => a.span.Apart b.span)
    (hc : c ∈ (compile picks edits duration).clips) :
    ∃! i : Fin (baseSpans picks duration).length,
      c.span.Within ((baseSpans picks duration).get i) := by
  have hforward := (measured_of_mem_clips hc).forward
  obtain ⟨p, hp, -, heq⟩ := exists_piece hc
  obtain ⟨s, hs, hwithin⟩ := exists_baseSpan hp
  rw [← span_of_attach heq] at hwithin
  obtain ⟨i, rfl⟩ := List.get_of_mem hs
  refine ⟨i, hwithin, ?_⟩
  intro j hj
  have hholds : c.span.Holds c.span.start := ⟨le_refl _, hforward⟩
  have hmeet : ¬ ((baseSpans picks duration).get j).Apart ((baseSpans picks duration).get i) :=
    fun h => Span.apart_of_within hj hwithin h c.span.start ⟨hholds, hholds⟩
  have hpairwise := List.pairwise_iff_get.mp (apart_baseSpans duration hapart)
  rcases lt_trichotomy j i with hji | hji | hij
  · exact absurd (hpairwise j i hji) hmeet
  · exact hji
  · exact absurd (Span.apart_comm (hpairwise i j hij)) hmeet

/-! ### Lengths -/

theorem mediaDuration_eq (clips : List (Clip Rat)) :
    Clip.mediaDuration clips = (clips.map (·.duration)).sum :=
  Rational.sum_eq _

/-- Cutting a clip keeps its length. -/
theorem sum_splitAll {margin : Rat} {points : List Rat} (hm : 0 ≤ margin) (hb : b.Measured) :
    ((Clip.splitAll margin points [b]).map (·.duration)).sum = b.duration := by
  have hmeasured : ∀ d ∈ Clip.splitAll margin points [b], d.Measured :=
    Clip.measured_of_mem_splitAll hm (by simpa)
  have hlengths : (Clip.splitAll margin points [b]).map (·.duration) =
      ((Clip.splitAll margin points [b]).map (·.span)).map fun s => s.stop - s.start := by
    rw [List.map_map]
    exact List.map_congr_left fun d hd => (hmeasured d hd).duration_eq
  rw [hlengths, Span.sum_of_tiles (Clip.tiles_splitAll margin points b), hb.duration_eq]

theorem sum_positive_lengths (spans : List (Span Rat)) :
    ((spans.filter fun s => s.start < s.stop).map fun s => s.stop - s.start).sum =
      (spans.map fun s => max (s.stop - s.start) 0).sum := by
  induction spans with
  | nil => rfl
  | cons s rest ih =>
    rw [List.map_cons, List.sum_cons, ← ih]
    by_cases h : s.start < s.stop
    · rw [List.filter_cons_of_pos (by simpa using h), List.map_cons, List.sum_cons,
        max_eq_left (sub_nonneg.mpr (le_of_lt h))]
    · rw [List.filter_cons_of_neg (by simpa using h),
        max_eq_right (sub_nonpos.mpr (not_lt.mp h)), zero_add]

theorem sum_pieces (picks : List (Pick Rat)) (edits : List (Edit Rat)) (duration : Rat) :
    ((pieces picks edits duration).map (·.duration)).sum =
      ((baseSpans picks duration).map fun s => max (s.stop - s.start) 0).sum := by
  have hbase : ∀ b ∈ baseClips picks (mediaLimit picks duration),
      ((Clip.splitAll (splitMargin (usable picks edits duration))
        (Edit.boundaries (usable picks edits duration)) [b]).map (·.duration)).sum =
        b.span.stop - b.span.start := by
    intro b hb
    rw [sum_splitAll (splitMargin_nonneg _) (measured_of_mem_baseClips hb),
      (measured_of_mem_baseClips hb).duration_eq]
  rw [pieces, Clip.splitAll_eq_flatMap, List.map_flatMap, List.flatMap_def, List.sum_flatten,
    List.map_map, ← sum_positive_lengths, ← span_baseClips, List.map_map]
  exact congrArg List.sum (List.map_congr_left hbase)

theorem sum_clips_of_no_delete (hnone : ∀ r, .delete r ∉ usable picks edits duration) :
    Clip.mediaDuration (compile picks edits duration).clips =
      ((pieces picks edits duration).map (·.duration)).sum := by
  have hkept : ∀ p ∈ pieces picks edits duration,
      (!deleted (usable picks edits duration) p) = true := by
    intro p hp
    rw [Bool.not_eq_true', Bool.eq_false_iff]
    intro h
    obtain ⟨r, hr, -⟩ := deleted_iff.mp h
    exact hnone r hr
  have hdurations : (compile picks edits duration).clips.map (·.duration) =
      (Clip.inMediaOrder (retained (usable picks edits duration)
        (pieces picks edits duration))).map (·.duration) := by
    have hmap := congrArg (List.map (·.duration)) (unplaced_compile picks edits duration)
    rwa [List.map_map, List.map_map] at hmap
  rw [mediaDuration_eq, hdurations, ((Clip.inMediaOrder_perm _).map _).sum_eq, retained,
    List.filter_eq_self.mpr hkept, List.map_map]
  rfl

/-- Each clip is a part of one span of the selection, the clips run forward and share nothing, and
what they leave out of the selection is near a delete. -/
theorem partition_of_apart (picks : List (Pick Rat)) (edits : List (Edit Rat)) (duration : Rat)
    (hapart : picks.Pairwise fun a b => a.span.Apart b.span) :
    let T := compile picks edits duration
    (∀ c ∈ T.clips,
      (∃! i : Fin (baseSpans picks duration).length,
        c.span.Within ((baseSpans picks duration).get i)) ∧
      c.duration = c.span.stop - c.span.start ∧ 0 < c.duration) ∧
    T.clips.Pairwise (fun a b => a.span.start < b.span.start ∧ a.span.Apart b.span) ∧
    (∀ s ∈ baseSpans picks duration, ∀ t, s.Holds t →
      T.Keeps t ∨ ∃ r, .delete r ∈ usable picks edits duration ∧ r.Reaches 0.02 t) ∧
    ((∀ r, .delete r ∉ usable picks edits duration) →
      Clip.mediaDuration T.clips =
        ((baseSpans picks duration).map fun s => max (s.stop - s.start) 0).sum) := by
  intro T
  refine ⟨?_, ?_, ?_, ?_⟩
  · intro c hc
    have hmeasured := measured_of_mem_clips hc
    refine ⟨existsUnique_baseSpan hapart hc, hmeasured.duration_eq, ?_⟩
    rw [hmeasured.duration_eq]
    exact sub_pos.mpr hmeasured.forward
  · refine (ordered_clips hapart).imp_of_mem ?_
    intro a b ha _ hab
    exact ⟨lt_of_lt_of_le (measured_of_mem_clips ha).forward hab, Span.apart_of_le hab⟩
  · exact fun s hs t ht => keeps_or_reaches edits hs ht
  · intro hnone
    rw [sum_clips_of_no_delete hnone, sum_pieces]

theorem partition_of_two_picks :
    let picks : List (Pick Rat) := [.over ⟨6, 9⟩, .over ⟨0, 4⟩]
    let edits : List (Edit Rat) := [.speed ⟨1, 2⟩ 2]
    let T := compile picks edits 10
    picks.Pairwise (fun a b => a.span.Apart b.span) ∧
      T.clips.Pairwise (fun a b => a.span.start < b.span.start ∧ a.span.Apart b.span) ∧
      Clip.mediaDuration T.clips = 7 := by
  intro picks edits T
  have hapart : picks.Pairwise fun a b => a.span.Apart b.span :=
    List.pairwise_pair.mpr (Span.apart_comm (Span.apart_of_le (by decide +kernel)))
  have husable : usable picks edits 10 = [.speed ⟨1, 2⟩ 2] := by decide +kernel
  obtain ⟨-, hordered, -, hsum⟩ := partition_of_apart picks edits 10 hapart
  refine ⟨hapart, hordered, (hsum ?_).trans (by decide +kernel)⟩
  rw [husable]
  simp

end Montage.Timeline
