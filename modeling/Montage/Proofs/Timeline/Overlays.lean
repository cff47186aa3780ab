import Mathlib
import Montage.Proofs.Timeline.Clocks
import Montage.Proofs.Timeline.EditOrder

/-! Texts and fades show for as long as what they lie over. An overlay looks up its two ends apart
from each other, each in one clip; each lookup adds up all that shows before it. -/
namespace Montage

namespace Clip

variable {clips : List (Clip Rat)} {c d : Clip Rat} {r : Span Rat} {t u total : Rat}

/-- How long the clip has shown when the media clock stands at `t`. -/
def shownBefore (c : Clip Rat) (t : Rat) : Rat :=
  max 0 (min c.span.stop t - c.span.start) / effectiveRate c.rate

theorem shownBefore_of_le (h : t ≤ c.span.start) : c.shownBefore t = 0 := by
  have hnone : min c.span.stop t - c.span.start ≤ 0 :=
    sub_nonpos.mpr (le_trans (min_le_right _ _) h)
  rw [shownBefore, max_eq_left hnone, zero_div]

theorem shownBefore_of_holds (h : c.span.Holds t) :
    c.shownBefore t = (t - c.span.start) / effectiveRate c.rate := by
  rw [shownBefore, min_eq_right (le_of_lt h.2), max_eq_right (sub_nonneg.mpr h.1)]

theorem Playable.shownBefore_of_le (hc : c.Playable) (h : c.span.stop ≤ t) :
    c.shownBefore t = c.displayDuration := by
  rw [shownBefore, min_eq_left h, max_eq_right (sub_nonneg.mpr (le_of_lt hc.forward)),
    hc.displayDuration_eq]

/-- What shows between two instants is what the clip overlaps with the stretch between them. -/
theorem shownBefore_sub (hr : r.start ≤ r.stop) (hc : c.span.start ≤ c.span.stop) :
    c.shownBefore r.stop - c.shownBefore r.start =
      max 0 (c.span.overlap r) / effectiveRate c.rate := by
  rw [shownBefore, shownBefore, ← sub_div]
  congr 1
  unfold Span.overlap
  grind

/-- The output clock adds up what every clip has shown. The induction moves the start of the clock
past the first clip. -/
theorem shownAt_eq_sum (htiles : Span.Tiles ⟨u, total⟩ (clips.map window))
    (hplay : ∀ c ∈ clips, c.Playable)
    (hordered : clips.Pairwise fun a b => a.span.stop ≤ b.span.start) (hc : c ∈ clips)
    (ht : c.span.Holds t) : c.shownAt t = u + (clips.map (·.shownBefore t)).sum := by
  induction clips generalizing u with
  | nil => cases hc
  | cons d rest ih =>
    obtain ⟨hstart, htiles⟩ := htiles
    obtain ⟨hafter, hordered⟩ := List.pairwise_cons.mp hordered
    have hstart : d.timelineStart = u := hstart
    rw [List.map_cons, List.sum_cons]
    rcases List.mem_cons.mp hc with rfl | hrest
    · have hnone : ∀ x ∈ rest.map (·.shownBefore t), x = 0 := by
        intro x hx
        obtain ⟨e, he, rfl⟩ := List.mem_map.mp hx
        exact shownBefore_of_le (le_trans (le_of_lt ht.2) (hafter e he))
      rw [List.sum_eq_zero hnone, add_zero, shownAt_eq ht.1, shownBefore_of_holds ht, hstart]
    · have hwhole : d.shownBefore t = d.displayDuration :=
        (hplay d List.mem_cons_self).shownBefore_of_le (le_trans (hafter c hrest) ht.1)
      have hcursor : d.window.stop = u + d.displayDuration := by rw [← hstart]; rfl
      rw [ih htiles (fun e he => hplay e (List.mem_cons_of_mem d he)) hordered hrest, hcursor,
        hwhole, add_assoc]

namespace Playback

/-- From one kept instant to a later one, the output clock runs for all that lies between. -/
theorem mediaToTimeline_sub (h : Playback clips total) (hr : r.start ≤ r.stop) (hc : c ∈ clips)
    (hcr : c.span.Holds r.start) (hd : d ∈ clips) (hdr : d.span.Holds r.stop) :
    mediaToTimeline clips r.stop - mediaToTimeline clips r.start =
      (clips.map fun c => max 0 (c.span.overlap r) / effectiveRate c.rate).sum := by
  rw [h.mediaToTimeline_eq hd hdr, h.mediaToTimeline_eq hc hcr,
    shownAt_eq_sum h.tiles h.playable h.ordered hd hdr,
    shownAt_eq_sum h.tiles h.playable h.ordered hc hcr, add_sub_add_left_eq_sub,
    sub_eq_iff_eq_add, ← List.sum_map_add]
  refine congrArg List.sum (List.map_congr_left fun e he => ?_)
  exact sub_eq_iff_eq_add.mp (shownBefore_sub hr (le_of_lt (h.playable e he).forward))

theorem mediaToTimeline_lt (h : Playback clips total) (hr : r.start < r.stop) (hc : c ∈ clips)
    (hcr : c.span.Holds r.start) (hd : d ∈ clips) (hdr : d.span.Holds r.stop) :
    mediaToTimeline clips r.start < mediaToTimeline clips r.stop := by
  have hmono : StrictMonoOn (timelineToMedia clips) (Set.Ico 0 total) :=
    fun u hu v hv huv => h.timelineToMedia_lt hu hv huv
  refine (hmono.lt_iff_lt (h.mediaToTimeline_mem hc hcr) (h.mediaToTimeline_mem hd hdr)).mp ?_
  rwa [h.timelineToMedia_mediaToTimeline hc hcr, h.timelineToMedia_mediaToTimeline hd hdr]

end Playback

end Clip

/-- The edit that an overlay shows. -/
def Overlay.edit {α : Type} (o : Overlay α) : Edit α :=
  match o.content with
  | .text words position => .text o.span words position
  | .fade direction => .fade o.span direction

@[simp] theorem Overlay.span?_edit {α : Type} (o : Overlay α) : o.edit.span? = some o.span := by
  unfold edit
  cases o.content <;> rfl

namespace Timeline

section Lists

variable {α : Type} [Scalar α] {clips : List (Clip α)} {edits : List (Edit α)} {e : Edit α}
  {o : Overlay α}

theorem edit_of_overlay? (h : overlay? clips e = some o) : o.edit = e := by
  unfold overlay? at h
  cases e <;> first | (obtain rfl := Option.some.inj h; rfl) | cases h

theorem shown_of_overlay? (h : overlay? clips e = some o) :
    o.shown = ⟨Clip.mediaToTimeline clips o.span.start, Clip.mediaToTimeline clips o.span.stop⟩ := by
  unfold overlay? at h
  cases e <;> first | (obtain rfl := Option.some.inj h; rfl) | cases h

theorem map_edit_overlays {kind : EditKind} (hkind : kind = .text ∨ kind = .fade)
    (clips : List (Clip α)) (edits : List (Edit α)) :
    ((Edit.ofKind kind edits).filterMap (overlay? clips)).map Overlay.edit =
      Edit.ofKind kind edits := by
  have hown : ∀ e ∈ Edit.ofKind kind edits, (overlay? clips e).map Overlay.edit = some e := by
    intro e he
    have hekind : e.kind = kind := by simpa using (List.mem_filter.mp he).2
    cases e <;> first | rfl | (subst hekind; simp [Edit.kind] at hkind)
  rw [List.map_filterMap, List.filterMap_congr hown, List.filterMap_some]

end Lists

variable {picks : List (Pick Rat)} {edits : List (Edit Rat)} {duration : Rat} {o : Overlay Rat}

theorem exists_of_mem_overlays
    (ho : o ∈ (compile picks edits duration).texts ++ (compile picks edits duration).fades) :
    (∃ e ∈ usable picks edits duration, e.kind ≠ .split ∧ e.span? = some o.span) ∧
      o.shown = ⟨Clip.mediaToTimeline (compile picks edits duration).clips o.span.start,
        Clip.mediaToTimeline (compile picks edits duration).clips o.span.stop⟩ := by
  have hsource : ∃ e ∈ usable picks edits duration,
      overlay? (compile picks edits duration).clips e = some o := by
    rcases List.mem_append.mp ho with ho | ho
    all_goals
      obtain ⟨e, he, hoverlay⟩ := List.mem_filterMap.mp ho
      exact ⟨e, (List.mem_filter.mp he).1, hoverlay⟩
  obtain ⟨e, he, hoverlay⟩ := hsource
  obtain rfl := edit_of_overlay? hoverlay
  refine ⟨⟨o.edit, he, ?_, o.span?_edit⟩, shown_of_overlay? hoverlay⟩
  unfold Overlay.edit
  cases o.content <;> exact nofun

/-- Each text and each fade of the usable edits has one overlay, with its window and what it says,
and between two kept instants it shows for as long as the clips take to play what it lies over. -/
theorem overlays_of_apart (picks : List (Pick Rat)) (edits : List (Edit Rat)) (duration : Rat)
    (hapart : picks.Pairwise fun a b => a.span.Apart b.span) :
    let T := compile picks edits duration
    T.texts.map Overlay.edit = Edit.ofKind .text (usable picks edits duration) ∧
    T.fades.map Overlay.edit = Edit.ofKind .fade (usable picks edits duration) ∧
    ∀ o ∈ T.texts ++ T.fades, T.Keeps o.span.start → T.Keeps o.span.stop →
      0 ≤ o.shown.start ∧ o.shown.start < o.shown.stop ∧ o.shown.stop < T.total ∧
      o.shown.stop - o.shown.start =
        (T.clips.map fun c => max 0 (c.span.overlap o.span) / c.rate).sum := by
  intro T
  have hplay : Clip.Playback T.clips T.total := playback_compile hapart
  refine ⟨map_edit_overlays (Or.inl rfl) T.clips _, map_edit_overlays (Or.inr rfl) T.clips _, ?_⟩
  rintro o ho ⟨c, hc, hstart⟩ ⟨d, hd, hstop⟩
  obtain ⟨⟨e, he, hkind, hspan⟩, hshown⟩ := exists_of_mem_overlays ho
  have hforward : o.span.start < o.span.stop := Edit.forward_of_mem_normalized he hkind hspan
  have hrates : (T.clips.map fun c => max 0 (c.span.overlap o.span) / effectiveRate c.rate) =
      T.clips.map fun c => max 0 (c.span.overlap o.span) / c.rate :=
    List.map_congr_left fun e he => by rw [effectiveRate_of_mem_clips he]
  rw [hshown]
  refine ⟨(hplay.mediaToTimeline_mem hc hstart).1, hplay.mediaToTimeline_lt hforward hc hstart hd
    hstop, (hplay.mediaToTimeline_mem hd hstop).2, ?_⟩
  rw [← hrates]
  exact hplay.mediaToTimeline_sub (le_of_lt hforward) hc hstart hd hstop

/-- A text over a cut and over a change of speed. -/
theorem overlays_of_cut_and_speed :
    let picks : List (Pick Rat) := [.over ⟨0, 10⟩]
    let caption : Edit Rat := .text ⟨1, 7⟩ "caption" .top
    let T := compile picks [.delete ⟨3, 5⟩, caption, .speed ⟨5, 8⟩ 2] 10
    picks.Pairwise (fun a b => a.span.Apart b.span) ∧ T.Keeps 1 ∧ T.Keeps 7 ∧
      ∃ o ∈ T.texts, o.edit = caption ∧ o.shown.stop < T.total ∧
        o.shown.stop - o.shown.start = 3 := by
  intro picks caption T
  have hapart : picks.Pairwise fun a b => a.span.Apart b.span := List.pairwise_singleton _ _
  have husable : usable picks [.delete ⟨3, 5⟩, caption, .speed ⟨5, 8⟩ 2] 10 =
      [.delete ⟨3, 5⟩, caption, .speed ⟨5, 8⟩ 2] := by
    decide +kernel
  have hplaced := compile_of_pairwise [3, 5, 8] husable (by decide +kernel) (by decide +kernel)
    (by decide +kernel)
  have hclips := (Prod.mk.inj hplaced).1
  have hstart : T.Keeps 1 := by
    rw [Keeps, hclips]
    decide +kernel
  have hstop : T.Keeps 7 := by
    rw [Keeps, hclips]
    decide +kernel
  have hplayed : (T.clips.map fun c => max 0 (c.span.overlap ⟨1, 7⟩) / c.rate).sum = 3 := by
    rw [hclips]
    decide +kernel
  obtain ⟨htexts, -, hshown⟩ :=
    overlays_of_apart picks [.delete ⟨3, 5⟩, caption, .speed ⟨5, 8⟩ 2] 10 hapart
  have hcaption : T.texts.map Overlay.edit = [caption] := by
    rw [htexts, husable]
    rfl
  obtain ⟨o, ho, hedit⟩ := List.mem_map.mp (hcaption ▸ List.mem_singleton_self caption)
  have hspan : o.span = ⟨1, 7⟩ := by
    have hsome := o.span?_edit
    rw [hedit] at hsome
    exact (Option.some.inj hsome).symm
  obtain ⟨-, -, hlast, hsum⟩ := hshown o (List.mem_append_left _ ho) (hspan ▸ hstart)
    (hspan ▸ hstop)
  rw [hspan, hplayed] at hsum
  exact ⟨hapart, hstart, hstop, o, ho, hedit, hlast, hsum⟩

end Timeline

end Montage
