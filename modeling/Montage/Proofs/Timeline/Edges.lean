import Montage.Proofs.Timeline.Clocks

/-! Lookups beside the clips. An instant that no window holds is looked up in the first clip that
comes near it. Before that clip it is carried to its start; past it, the clock of the clip runs on,
so that the answer misses the clip by as much as the instant does, stretched by the rate. -/
namespace Montage

/-- Where an instant outside a span is carried, if the span is carried onto another and the clock
runs at `pace` there. -/
def Span.Carries (near onto : Span Rat) (pace t v : Rat) : Prop :=
  t < near.start ∧ v = onto.start ∨ near.stop ≤ t ∧ v = onto.stop + (t - near.stop) * pace

theorem Span.Carries.bounds {near onto : Span Rat} {slack pace t v : Rat} (hpace : 0 < pace)
    (honto : onto.start < onto.stop) (hslack : 0 ≤ slack) (hreach : near.Reaches slack t)
    (hnear : near.start ≤ near.stop) (h : near.Carries onto pace t v) :
    v ∈ Set.Icc onto.start (onto.stop + slack * pace) ∧ (v ≤ onto.stop ↔ t ≤ near.stop) := by
  have hroom : 0 ≤ slack * pace := mul_nonneg hslack (le_of_lt hpace)
  rcases h with ⟨hbefore, rfl⟩ | ⟨hpast, rfl⟩
  · refine ⟨⟨le_refl _, ?_⟩, ?_⟩
    · linarith
    · exact iff_of_true (le_of_lt honto) (le_trans (le_of_lt hbefore) hnear)
  · have hmiss : 0 ≤ t - near.stop := sub_nonneg.mpr hpast
    have hclose : t - near.stop ≤ slack := sub_le_iff_le_add'.mpr hreach.2
    have hnonneg : 0 ≤ (t - near.stop) * pace := mul_nonneg hmiss (le_of_lt hpace)
    refine ⟨⟨?_, ?_⟩, ?_⟩
    · linarith
    · exact add_le_add_right (mul_le_mul_of_nonneg_right hclose (le_of_lt hpace)) _
    · constructor
      · intro hle
        have hzero : (t - near.stop) * pace ≤ 0 := by linarith
        exact sub_nonpos.mp (nonpos_of_mul_nonpos_left hzero hpace)
      · intro hle
        rw [le_antisymm hle hpast, sub_self, zero_mul, add_zero]

namespace Clip

section Lookup

variable {α : Type} [Scalar α] {windowOf : Clip α → Span α} {clips : List (Clip α)} {c : Clip α}
  {t : α}

/-- The first of the clips whose widened window holds the instant. -/
def FirstNear (windowOf : Clip α → Span α) (clips : List (Clip α)) (t : α) (c : Clip α) : Prop :=
  (windowOf c).Reaches lookupSlack t ∧ ∃ before after, clips = before ++ c :: after ∧
    ∀ d ∈ before, ¬ (windowOf d).Reaches lookupSlack t

theorem FirstNear.mem (h : FirstNear windowOf clips t c) : c ∈ clips := by
  obtain ⟨-, before, after, rfl, -⟩ := h
  simp

/-- An instant that no window holds is looked up in the first clip that comes near it. -/
theorem exists_firstNear (windowOf : Clip α → Span α)
    (houtside : ∀ d ∈ clips, ¬ (windowOf d).Holds t)
    (hnear : ∃ d ∈ clips, (windowOf d).Reaches lookupSlack t) :
    ∃ c, FirstNear windowOf clips t c ∧ locate? windowOf clips t = some c := by
  have hnone : (clips.find? fun d => decide ((windowOf d).Holds t)) = none :=
    List.find?_eq_none.mpr fun d hd => by simpa using houtside d hd
  obtain ⟨d, hd, hreach⟩ := hnear
  have hfound : (clips.find? fun d => decide ((windowOf d).Reaches lookupSlack t)).isSome :=
    List.find?_isSome.mpr ⟨d, hd, decide_eq_true hreach⟩
  obtain ⟨c, hfind⟩ := Option.isSome_iff_exists.mp hfound
  have hfirst := List.find?_eq_some_iff_append.mp hfind
  simp only [decide_eq_true_eq, Bool.not_eq_true', decide_eq_false_iff_not] at hfirst
  refine ⟨c, hfirst, ?_⟩
  rw [locate?, hnone, hfind]
  rfl

end Lookup

variable {clips : List (Clip Rat)} {c : Clip Rat} {t u total : Rat}

theorem Playable.window_stop_eq (h : c.Playable) :
    c.window.stop = c.timelineStart + (c.span.stop - c.span.start) / effectiveRate c.rate := by
  rw [← h.displayDuration_eq]
  rfl

theorem Playable.carries_shownAt (h : c.Playable) (ht : ¬ c.span.Holds t) :
    c.span.Carries c.window (1 / effectiveRate c.rate) t (c.shownAt t) := by
  by_cases hbefore : t < c.span.start
  · refine Or.inl ⟨hbefore, ?_⟩
    rw [shownAt, Rational.max_eq, max_eq_right (sub_nonpos.mpr (le_of_lt hbefore)), zero_div,
      add_zero]
    rfl
  · have hstart := not_lt.mp hbefore
    refine Or.inr ⟨not_lt.mp fun hstop => ht ⟨hstart, hstop⟩, ?_⟩
    rw [shownAt_eq hstart, h.window_stop_eq]
    ring

theorem Playable.carries_sourceAt (h : c.Playable) (hu : ¬ c.window.Holds u) :
    c.window.Carries c.span (effectiveRate c.rate) u (c.sourceAt u) := by
  by_cases hbefore : u < c.timelineStart
  · refine Or.inl ⟨hbefore, ?_⟩
    rw [sourceAt, Rational.max_eq, max_eq_right (sub_nonpos.mpr (le_of_lt hbefore)), zero_mul,
      add_zero]
  · have hstart := not_lt.mp hbefore
    have hrate := ne_of_gt (effectiveRate_pos c.rate)
    refine Or.inr ⟨not_lt.mp fun hstop => hu ⟨hstart, hstop⟩, ?_⟩
    rw [sourceAt_eq hstart, h.window_stop_eq]
    field_simp
    ring

namespace Playback

theorem carries_mediaToTimeline (h : Playback clips total)
    (houtside : ∀ d ∈ clips, ¬ d.span.Holds t)
    (hnear : ∃ d ∈ clips, d.span.Reaches lookupSlack t) :
    ∃ c, FirstNear (·.span) clips t c ∧
      c.span.Carries c.window (1 / effectiveRate c.rate) t (mediaToTimeline clips t) := by
  obtain ⟨c, hfirst, hlocate⟩ := exists_firstNear (·.span) houtside hnear
  rw [mediaToTimeline_of_locate hlocate]
  exact ⟨c, hfirst, (h.playable c hfirst.mem).carries_shownAt (houtside c hfirst.mem)⟩

theorem carries_timelineToMedia (h : Playback clips total)
    (houtside : ∀ d ∈ clips, ¬ d.window.Holds u)
    (hnear : ∃ d ∈ clips, d.window.Reaches lookupSlack u) :
    ∃ c, FirstNear window clips u c ∧
      c.window.Carries c.span (effectiveRate c.rate) u (timelineToMedia clips u) := by
  obtain ⟨c, hfirst, hlocate⟩ := exists_firstNear window houtside hnear
  rw [timelineToMedia_of_locate hlocate]
  exact ⟨c, hfirst, (h.playable c hfirst.mem).carries_sourceAt (houtside c hfirst.mem)⟩

theorem window_within (h : Playback clips total) (hc : c ∈ clips) :
    c.window.Within ⟨0, total⟩ :=
  Span.within_of_tiles h.tiles h.windows_forward _ (List.mem_map_of_mem hc)

end Playback

end Clip

namespace Timeline

variable {picks : List (Pick Rat)} {edits : List (Edit Rat)} {duration : Rat}

/-- An instant beside the clips is carried by the first clip that comes near it: to its start, or
past its stop by what it misses the clip by, stretched by the rate. So no lookup within 0.05 seconds
leads farther from the clip than that, and only those past the stop leave it. -/
theorem edges_of_apart (picks : List (Pick Rat)) (edits : List (Edit Rat)) (duration : Rat)
    (hapart : picks.Pairwise fun a b => a.span.Apart b.span) :
    let T := compile picks edits duration
    (∀ t, ¬ T.Keeps t → (∃ c ∈ T.clips, c.span.Reaches 0.05 t) →
      ∃ c, Clip.FirstNear (·.span) T.clips t c ∧ c.window.Within ⟨0, T.total⟩ ∧
        let v := Clip.mediaToTimeline T.clips t
        c.span.Carries c.window (1 / c.rate) t v ∧
        v ∈ Set.Icc c.window.start (c.window.stop + 0.05 * (1 / c.rate)) ∧
        (v ≤ c.window.stop ↔ t ≤ c.span.stop)) ∧
    ∀ u, (∀ c ∈ T.clips, ¬ c.window.Holds u) → (∃ c ∈ T.clips, c.window.Reaches 0.05 u) →
      ∃ c, Clip.FirstNear Clip.window T.clips u c ∧
        let v := Clip.timelineToMedia T.clips u
        c.window.Carries c.span c.rate u v ∧
        v ∈ Set.Icc c.span.start (c.span.stop + 0.05 * c.rate) ∧
        (v ≤ c.span.stop ↔ u ≤ c.window.stop) := by
  intro T
  have hplay : Clip.Playback T.clips T.total := playback_compile hapart
  constructor
  · intro t hkeeps hnear
    obtain ⟨c, hfirst, hcarries⟩ :=
      hplay.carries_mediaToTimeline (fun d hd hdt => hkeeps ⟨d, hd, hdt⟩) hnear
    have hc := hplay.playable c hfirst.mem
    have hrate : effectiveRate c.rate = c.rate := effectiveRate_of_mem_clips hfirst.mem
    have hpace : 0 < 1 / c.rate := one_div_pos.mpr (hrate ▸ effectiveRate_pos c.rate)
    rw [hrate] at hcarries
    exact ⟨c, hfirst, hplay.window_within hfirst.mem, hcarries,
      hcarries.bounds hpace hc.window_forward (by norm_num) hfirst.1 (le_of_lt hc.forward)⟩
  · intro u houtside hnear
    obtain ⟨c, hfirst, hcarries⟩ := hplay.carries_timelineToMedia houtside hnear
    have hc := hplay.playable c hfirst.mem
    have hrate : effectiveRate c.rate = c.rate := effectiveRate_of_mem_clips hfirst.mem
    have hpace : 0 < c.rate := hrate ▸ effectiveRate_pos c.rate
    rw [hrate] at hcarries
    exact ⟨c, hfirst, hcarries,
      hcarries.bounds hpace hc.forward (by norm_num) hfirst.1 (le_of_lt hc.window_forward)⟩

/-- At half speed, an instant past the clip is carried past the end of the output by twice what it
misses the clip by, and one past the output by half of that. -/
theorem edges_of_half_speed :
    let picks : List (Pick Rat) := [.over ⟨0, 10⟩]
    let T := compile picks [.speed ⟨0, 10⟩ 0.5] 10
    picks.Pairwise (fun a b => a.span.Apart b.span) ∧ T.total = 20 ∧
      ¬ T.Keeps 10.04 ∧ Clip.mediaToTimeline T.clips 10.04 = 20.08 ∧
      (∀ c ∈ T.clips, ¬ c.window.Holds 20.04) ∧ Clip.timelineToMedia T.clips 20.04 = 10.02 := by
  intro picks T
  have hapart : picks.Pairwise fun a b => a.span.Apart b.span := List.pairwise_singleton _ _
  have hkeeps : ¬ T.Keeps 10.04 := by
    unfold Keeps
    decide +kernel
  have houtside : ∀ c ∈ T.clips, ¬ c.window.Holds 20.04 := by decide +kernel
  have hall : ∀ c ∈ T.clips, c.rate = 0.5 ∧ c.span = ⟨0, 10⟩ ∧ c.window = ⟨0, 20⟩ := by
    decide +kernel
  obtain ⟨hmedia, htimeline⟩ := edges_of_apart picks [.speed ⟨0, 10⟩ 0.5] 10 hapart
  obtain ⟨c, hfirst, -, hcarries, -⟩ := hmedia 10.04 hkeeps (by decide +kernel)
  obtain ⟨d, hdfirst, hdcarries, -⟩ := htimeline 20.04 houtside (by decide +kernel)
  obtain ⟨hrate, hspan, hwindow⟩ := hall c hfirst.mem
  obtain ⟨hdrate, hdspan, hdwindow⟩ := hall d hdfirst.mem
  rw [hspan, hwindow, hrate] at hcarries
  rw [hdspan, hdwindow, hdrate] at hdcarries
  refine ⟨hapart, by decide +kernel, hkeeps, ?_, houtside, ?_⟩
  · rcases hcarries with ⟨hbefore, -⟩ | ⟨-, hpast⟩
    · norm_num at hbefore
    · rw [hpast]
      norm_num
  · rcases hdcarries with ⟨hbefore, -⟩ | ⟨-, hpast⟩
    · norm_num at hbefore
    · rw [hpast]
      norm_num

/-- Past the last clip a lookup leaves every window that comes near, on either clock. -/
theorem exists_lookup_past_edges :
    let picks : List (Pick Rat) := [.over ⟨0, 10⟩]
    let T := compile picks [] 10
    picks.Pairwise (fun a b => a.span.Apart b.span) ∧
      (¬ T.Keeps 10.04 ∧ (∃ c ∈ T.clips, c.span.Reaches 0.05 10.04) ∧
        ∀ c ∈ T.clips, c.span.Reaches 0.05 10.04 →
          Clip.mediaToTimeline T.clips 10.04 ∉ Set.Icc c.window.start c.window.stop) ∧
      (∀ c ∈ T.clips, ¬ c.window.Holds 10.04) ∧ (∃ c ∈ T.clips, c.window.Reaches 0.05 10.04) ∧
        ∀ c ∈ T.clips, c.window.Reaches 0.05 10.04 →
          Clip.timelineToMedia T.clips 10.04 ∉ Set.Icc c.span.start c.span.stop := by
  intro picks T
  refine ⟨List.pairwise_singleton _ _, ⟨?_, ?_, ?_⟩, ?_, ?_, ?_⟩
  · unfold Keeps
    decide +kernel
  all_goals decide +kernel

end Timeline

end Montage
