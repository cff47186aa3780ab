import Montage.Proofs.Clip.Attributes
import Montage.Proofs.Timeline.Coverage
import Montage.Timeline.Basic

/-! The two clocks undo each other. Clips that follow each other on both clocks leave one clip to
look an instant up in, and inside one clip the clocks run at a positive rate. -/
namespace Montage

namespace Clip

section Clocks

variable {α : Type} [Scalar α]

/-- The media clock read inside one clip. -/
def shownAt (c : Clip α) (t : α) : α :=
  c.timelineStart + Scalar.max (t - c.span.start) 0 / effectiveRate c.rate

/-- The output clock read inside one clip. -/
def sourceAt (c : Clip α) (u : α) : α :=
  c.span.start + Scalar.max (u - c.timelineStart) 0 * effectiveRate c.rate

theorem mediaToTimeline_of_locate {clips : List (Clip α)} {c : Clip α} {t : α}
    (h : locate? (·.span) clips t = some c) : mediaToTimeline clips t = c.shownAt t := by
  rw [mediaToTimeline, h, shownAt]

theorem timelineToMedia_of_locate {clips : List (Clip α)} {c : Clip α} {u : α}
    (h : locate? window clips u = some c) : timelineToMedia clips u = c.sourceAt u := by
  rw [timelineToMedia, h, sourceAt]

end Clocks

/-- The clip runs forward and shows for its length at its rate. -/
structure Playable (c : Clip Rat) : Prop where
  forward : c.span.start < c.span.stop
  displayDuration_eq : c.displayDuration = (c.span.stop - c.span.start) / effectiveRate c.rate

variable {clips : List (Clip Rat)} {c d : Clip Rat} {t u v total : Rat}

/-! ### Inside one clip -/

theorem shownAt_eq (ht : c.span.start ≤ t) :
    c.shownAt t = c.timelineStart + (t - c.span.start) / effectiveRate c.rate := by
  rw [shownAt, Rational.max_eq, max_eq_left (sub_nonneg.mpr ht)]

theorem sourceAt_eq (hu : c.timelineStart ≤ u) :
    c.sourceAt u = c.span.start + (u - c.timelineStart) * effectiveRate c.rate := by
  rw [sourceAt, Rational.max_eq, max_eq_left (sub_nonneg.mpr hu)]

theorem Playable.window_forward (h : c.Playable) : c.window.start < c.window.stop := by
  change c.timelineStart < c.timelineStart + c.displayDuration
  rw [h.displayDuration_eq]
  exact lt_add_of_pos_right _ (div_pos (sub_pos.mpr h.forward) (effectiveRate_pos c.rate))

theorem Playable.window_holds (h : c.Playable) (ht : c.span.Holds t) :
    c.window.Holds (c.shownAt t) := by
  obtain ⟨hstart, hstop⟩ := Span.holds_iff.mp ht
  have hrate := effectiveRate_pos c.rate
  rw [shownAt_eq hstart, Span.holds_iff]
  refine ⟨le_add_of_nonneg_right (div_nonneg (sub_nonneg.mpr hstart) (le_of_lt hrate)), ?_⟩
  change _ < c.timelineStart + c.displayDuration
  rw [h.displayDuration_eq]
  exact add_lt_add_right (div_lt_div_of_pos_right (sub_lt_sub_right hstop _) hrate) _

theorem Playable.span_holds (h : c.Playable) (hu : c.window.Holds u) :
    c.span.Holds (c.sourceAt u) := by
  have hstart : c.timelineStart ≤ u := hu.1
  have hstop : u < c.timelineStart + c.displayDuration := hu.2
  have hrate := effectiveRate_pos c.rate
  rw [h.displayDuration_eq, ← sub_lt_iff_lt_add', lt_div_iff₀ hrate] at hstop
  rw [sourceAt_eq hstart, Span.holds_iff]
  refine ⟨le_add_of_nonneg_right (mul_nonneg (sub_nonneg.mpr hstart) (le_of_lt hrate)), ?_⟩
  exact lt_sub_iff_add_lt'.mp hstop

theorem Playable.sourceAt_shownAt (h : c.Playable) (ht : c.span.Holds t) :
    c.sourceAt (c.shownAt t) = t := by
  have hrate := ne_of_gt (effectiveRate_pos c.rate)
  rw [sourceAt_eq (h.window_holds ht).1, shownAt_eq ht.1, add_sub_cancel_left,
    div_mul_cancel₀ _ hrate, add_sub_cancel]

theorem Playable.shownAt_sourceAt (h : c.Playable) (hu : c.window.Holds u) :
    c.shownAt (c.sourceAt u) = u := by
  have hrate := ne_of_gt (effectiveRate_pos c.rate)
  rw [shownAt_eq (h.span_holds hu).1, sourceAt_eq hu.1, add_sub_cancel_left,
    mul_div_cancel_right₀ _ hrate, add_sub_cancel]

theorem sourceAt_lt_sourceAt (hu : c.timelineStart ≤ u) (huv : u < v) :
    c.sourceAt u < c.sourceAt v := by
  rw [sourceAt_eq hu, sourceAt_eq (le_of_lt (lt_of_le_of_lt hu huv))]
  exact add_lt_add_right
    (mul_lt_mul_of_pos_right (sub_lt_sub_right huv _) (effectiveRate_pos c.rate)) _

/-! ### Among clips that follow each other -/

theorem eq_or_before {R : Clip Rat → Clip Rat → Prop} (h : clips.Pairwise R) (hc : c ∈ clips)
    (hd : d ∈ clips) : c = d ∨ R c d ∨ R d c := by
  by_cases heq : c = d
  · exact Or.inl heq
  · have hsymm : Std.Symm fun a b : Clip Rat => R a b ∨ R b a := ⟨fun _ _ hab => hab.symm⟩
    have heither : clips.Pairwise fun a b => R a b ∨ R b a := h.imp Or.inl
    exact Or.inr (heither.forall hc hd heq)

/-- Of spans that follow each other one at most holds an instant, and looking it up finds that. -/
theorem locate_of_holds (windowOf : Clip Rat → Span Rat)
    (h : clips.Pairwise fun a b => (windowOf a).stop ≤ (windowOf b).start) (hc : c ∈ clips)
    (ht : (windowOf c).Holds t) : locate? windowOf clips t = some c := by
  have hfound : (clips.find? fun d => decide ((windowOf d).Holds t)).isSome :=
    List.find?_isSome.mpr ⟨c, hc, decide_eq_true ht⟩
  obtain ⟨d, hfind⟩ := Option.isSome_iff_exists.mp hfound
  have hd : d ∈ clips := List.mem_of_find?_eq_some hfind
  have hdt : (windowOf d).Holds t := by simpa using List.find?_some hfind
  have heq : c = d := by
    rcases eq_or_before h hc hd with heq | hbefore | hbefore
    · exact heq
    · exact absurd ⟨ht, hdt⟩ (Span.apart_of_le hbefore t)
    · exact absurd ⟨hdt, ht⟩ (Span.apart_of_le hbefore t)
  rw [locate?, hfind, heq]
  rfl

/-- The clips play one after another, on the output clock without a gap. -/
structure Playback (clips : List (Clip Rat)) (total : Rat) : Prop where
  playable : ∀ c ∈ clips, c.Playable
  tiles : Span.Tiles ⟨0, total⟩ (clips.map window)
  ordered : clips.Pairwise fun a b => a.span.stop ≤ b.span.start

namespace Playback

theorem windows_forward (h : Playback clips total) :
    ∀ s ∈ clips.map window, s.start < s.stop := by
  intro s hs
  obtain ⟨c, hc, rfl⟩ := List.mem_map.mp hs
  exact (h.playable c hc).window_forward

theorem windows_ordered (h : Playback clips total) :
    clips.Pairwise fun a b => a.window.stop ≤ b.window.start :=
  List.pairwise_map.mp (Span.pairwise_of_tiles h.tiles h.windows_forward)

theorem mem_Ico_iff (h : Playback clips total) :
    u ∈ Set.Ico 0 total ↔ ∃ c ∈ clips, c.window.Holds u := by
  have hholds := Span.holds_iff_of_tiles (t := u) h.tiles h.windows_forward
  simp only [List.mem_map, exists_exists_and_eq_and] at hholds
  exact hholds

theorem mediaToTimeline_eq (h : Playback clips total) (hc : c ∈ clips) (ht : c.span.Holds t) :
    mediaToTimeline clips t = c.shownAt t :=
  mediaToTimeline_of_locate (locate_of_holds (·.span) h.ordered hc ht)

theorem timelineToMedia_eq (h : Playback clips total) (hc : c ∈ clips) (hu : c.window.Holds u) :
    timelineToMedia clips u = c.sourceAt u :=
  timelineToMedia_of_locate (locate_of_holds window h.windows_ordered hc hu)

theorem mediaToTimeline_mem (h : Playback clips total) (hc : c ∈ clips) (ht : c.span.Holds t) :
    mediaToTimeline clips t ∈ Set.Ico 0 total := by
  rw [h.mediaToTimeline_eq hc ht]
  exact h.mem_Ico_iff.mpr ⟨c, hc, (h.playable c hc).window_holds ht⟩

theorem timelineToMedia_lt (h : Playback clips total) (hu : u ∈ Set.Ico 0 total)
    (hv : v ∈ Set.Ico 0 total) (huv : u < v) :
    timelineToMedia clips u < timelineToMedia clips v := by
  obtain ⟨c, hc, hcu⟩ := h.mem_Ico_iff.mp hu
  obtain ⟨d, hd, hdv⟩ := h.mem_Ico_iff.mp hv
  rw [h.timelineToMedia_eq hc hcu, h.timelineToMedia_eq hd hdv]
  -- The order of two clips is the same on both clocks.
  rcases eq_or_before (h.ordered.and h.windows_ordered) hc hd with rfl | hbefore | hbefore
  · exact sourceAt_lt_sourceAt hcu.1 huv
  · have hcs := ((h.playable c hc).span_holds hcu).2
    have hds := ((h.playable d hd).span_holds hdv).1
    exact lt_of_lt_of_le hcs (le_trans hbefore.1 hds)
  · exact absurd (lt_of_lt_of_le hdv.2 (le_trans hbefore.2 hcu.1)) (not_lt.mpr (le_of_lt huv))

theorem mediaToTimeline_timelineToMedia (h : Playback clips total) (hc : c ∈ clips)
    (hu : c.window.Holds u) : mediaToTimeline clips (timelineToMedia clips u) = u := by
  have hplay := h.playable c hc
  rw [h.timelineToMedia_eq hc hu, h.mediaToTimeline_eq hc (hplay.span_holds hu),
    hplay.shownAt_sourceAt hu]

theorem timelineToMedia_mediaToTimeline (h : Playback clips total) (hc : c ∈ clips)
    (ht : c.span.Holds t) : timelineToMedia clips (mediaToTimeline clips t) = t := by
  have hplay := h.playable c hc
  rw [h.mediaToTimeline_eq hc ht, h.timelineToMedia_eq hc (hplay.window_holds ht),
    hplay.sourceAt_shownAt ht]

end Playback

end Clip

namespace Timeline

variable {picks : List (Pick Rat)} {edits : List (Edit Rat)} {duration : Rat} {c : Clip Rat}

/-- A compiled clip plays at the rate that it is said to have. -/
theorem effectiveRate_of_mem_clips (hc : c ∈ (compile picks edits duration).clips) :
    effectiveRate c.rate = c.rate := by
  obtain ⟨p, -, -, heq⟩ := exists_piece hc
  rw [(Clip.attributes_of_unplaced heq).1]
  exact Clip.effectiveRate_rateOf _ p

theorem playable_of_mem_clips (hc : c ∈ (compile picks edits duration).clips) : c.Playable := by
  have hmeasured := measured_of_mem_clips hc
  refine ⟨hmeasured.forward, ?_⟩
  rw [compile_clips, Clip.place_eq] at hc
  rw [Clip.displayDuration_of_mem_placeFrom hc, hmeasured.duration_eq]

theorem playback_compile (hapart : picks.Pairwise fun a b => a.span.Apart b.span) :
    Clip.Playback (compile picks edits duration).clips (compile picks edits duration).total where
  playable _ hc := playable_of_mem_clips hc
  tiles := by
    rw [compile_clips, compile_total, Clip.place_eq]
    exact Clip.tiles_placeFrom 0 _
  ordered := ordered_clips hapart

/-- The windows fill the output clock, and the clocks are inverse bijections between it and the
media that the clips keep. -/
theorem clocks_invOn (picks : List (Pick Rat)) (edits : List (Edit Rat)) (duration : Rat)
    (hapart : picks.Pairwise fun a b => a.span.Apart b.span) :
    let T := compile picks edits duration
    Span.Tiles ⟨0, T.total⟩ (T.clips.map Clip.window) ∧
    (∀ c ∈ T.clips, c.window.start < c.window.stop) ∧
    StrictMonoOn (Clip.timelineToMedia T.clips) (Set.Ico 0 T.total) ∧
    Set.MapsTo (Clip.timelineToMedia T.clips) (Set.Ico 0 T.total) {t | T.Keeps t} ∧
    Set.MapsTo (Clip.mediaToTimeline T.clips) {t | T.Keeps t} (Set.Ico 0 T.total) ∧
    Set.InvOn (Clip.mediaToTimeline T.clips) (Clip.timelineToMedia T.clips)
      (Set.Ico 0 T.total) {t | T.Keeps t} := by
  intro T
  have hplay : Clip.Playback T.clips T.total := playback_compile hapart
  refine ⟨hplay.tiles, fun c hc => (hplay.playable c hc).window_forward,
    fun u hu v hv huv => hplay.timelineToMedia_lt hu hv huv, ?_, ?_, ?_, ?_⟩
  · intro u hu
    obtain ⟨c, hc, hcu⟩ := hplay.mem_Ico_iff.mp hu
    rw [hplay.timelineToMedia_eq hc hcu]
    exact ⟨c, hc, (hplay.playable c hc).span_holds hcu⟩
  · rintro t ⟨c, hc, hct⟩
    exact hplay.mediaToTimeline_mem hc hct
  · intro u hu
    obtain ⟨c, hc, hcu⟩ := hplay.mem_Ico_iff.mp hu
    exact hplay.mediaToTimeline_timelineToMedia hc hcu
  · rintro t ⟨c, hc, hct⟩
    exact hplay.timelineToMedia_mediaToTimeline hc hct

theorem clocks_invOn_of_two_picks :
    let picks : List (Pick Rat) := [.over ⟨0, 4⟩, .over ⟨6, 9⟩]
    let T := compile picks [.speed ⟨6, 9⟩ 2] 10
    picks.Pairwise (fun a b => a.span.Apart b.span) ∧ T.Keeps 7 ∧
      Clip.timelineToMedia T.clips (Clip.mediaToTimeline T.clips 7) = 7 := by
  intro picks T
  have hapart : picks.Pairwise fun a b => a.span.Apart b.span :=
    List.pairwise_pair.mpr (Span.apart_of_le (by decide +kernel))
  have husable : usable picks [.speed ⟨6, 9⟩ 2] 10 = [.speed ⟨6, 9⟩ 2] := by decide +kernel
  have hbase : (⟨6, 9⟩ : Span Rat) ∈ baseSpans picks 10 := by decide +kernel
  have hkeeps : T.Keeps 7 := by
    rcases keeps_or_reaches [.speed ⟨6, 9⟩ 2] hbase
      (t := 7) ⟨by decide +kernel, by decide +kernel⟩ with h | ⟨r, hr, -⟩
    · exact h
    · rw [husable] at hr
      simp at hr
  obtain ⟨-, -, -, -, -, -, hinverse⟩ := clocks_invOn picks [.speed ⟨6, 9⟩ 2] 10 hapart
  exact ⟨hapart, hkeeps, hinverse hkeeps⟩

end Timeline

end Montage
