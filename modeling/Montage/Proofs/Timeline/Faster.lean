import Mathlib
import Montage.Proofs.Clip.Attributes
import Montage.Proofs.Timeline.Pieces

/-! A change of speed decides lengths and places on the output clock, and nothing else. Cutting and
deleting do not read rates, so that another rate leaves the same pieces, and where a piece is laid
depends on the lengths of those before it only. -/
namespace Montage

/-! ### What an edit owns -/

section Definitions

variable {α : Type} [Scalar α]

/-- The edit covers the clip, and no edit of its kind before it does. -/
def Edit.Leads (e : Edit α) (before : List (Edit α)) (c : Clip α) : Prop :=
  e.Covers c ∧ ∀ d ∈ before, d.kind = e.kind → ¬ d.Covers c

instance (e : Edit α) (before : List (Edit α)) (c : Clip α) :
    Decidable (e.Leads before c) :=
  inferInstanceAs (Decidable (_ ∧ _))

/-- The usable form of the edit is the first of its kind to cover the clip. -/
def Edit.Owns (limit : α) (before : List (Edit α)) (e : Edit α) (c : Clip α) : Prop :=
  ∃ n ∈ e.normal? limit, n.Leads (Edit.normalized limit before) c

/-- The clip without its speed and without its place on the output clock. -/
def Clip.untimed (c : Clip α) : Clip α :=
  { c with rate := 1, edit := none, timelineStart := 0, displayDuration := 0 }

/-- How long the clip shows. -/
def Clip.length (c : Clip α) : α :=
  c.duration / effectiveRate c.rate

/-- The second clip is the first after a change to a higher speed: shown for less time if the speed
is its own, for as long if it is not, and from no later on. -/
structure Clip.Hastened (own : Prop) (c d : Clip α) : Prop where
  untimed : d.untimed = c.untimed
  start_le : d.timelineStart ≤ c.timelineStart
  shorter : own → d.displayDuration < c.displayDuration
  as_long : ¬ own → d.displayDuration = c.displayDuration

end Definitions

section Rates

variable {α : Type} [Scalar α] {before : List (Edit α)} {r : Span α} {slow : α} {kind : EditKind}
  {c d : Clip α} {e : Edit α}

theorem Edit.leads_congr (h : c.span = d.span) : e.Leads before c ↔ e.Leads before d := by
  simp only [Leads, Covers, h]

theorem Edit.boundaries_of_rate (before after : List (Edit α)) (r : Span α) (slow fast : α) :
    boundaries (before ++ .speed r fast :: after) =
      boundaries (before ++ .speed r slow :: after) := by
  have hends : (Edit.speed r fast).ends = (Edit.speed r slow).ends := rfl
  simp only [boundaries_eq, points, List.flatMap_append, List.flatMap_cons, hends]

theorem Timeline.splitMargin_of_rate (before after : List (Edit α)) (r : Span α) (slow fast : α) :
    splitMargin (before ++ .speed r fast :: after) =
      splitMargin (before ++ .speed r slow :: after) := by
  have hkind : (Edit.speed r fast).kind = (Edit.speed r slow).kind := rfl
  simp only [splitMargin, List.any_append, List.any_cons, hkind]

theorem Timeline.deleted_of_rate (before after : List (Edit α)) (r : Span α) (slow fast : α) :
    deleted (before ++ .speed r fast :: after) = deleted (before ++ .speed r slow :: after) := by
  funext c
  simp only [deleted, List.any_append, List.any_cons]

theorem Clip.covering?_of_rate (h : kind ≠ .speed) (before after : List (Edit α)) (r : Span α)
    (slow fast : α) (c : Clip α) :
    covering? kind (before ++ .speed r fast :: after) c =
      covering? kind (before ++ .speed r slow :: after) c := by
  have hother (rate : α) : (Edit.speed r rate).kind ≠ kind := h.symm
  simp only [covering?_eq, List.find?_append, List.find?_cons, hother, false_and, decide_false]

theorem Clip.covering?_of_leads (h : e.Leads before c) (after : List (Edit α)) :
    covering? e.kind (before ++ e :: after) c = some e :=
  covering?_eq_some_iff.mpr ⟨⟨rfl, h.1⟩, before, after, rfl, fun d hd hcovers =>
    h.2 d hd hcovers.1 hcovers.2⟩

/-- A change of speed that does not lead is not looked at. -/
theorem Clip.covering?_of_not_leads (h : ¬ (Edit.speed r slow).Leads before c) (fast : α)
    (after : List (Edit α)) :
    covering? .speed (before ++ .speed r fast :: after) c =
      covering? .speed (before ++ .speed r slow :: after) c := by
  have hsame : (Edit.speed r fast).Covers c ↔ (Edit.speed r slow).Covers c := Iff.rfl
  rw [covering?_eq, covering?_eq, List.find?_append, List.find?_append]
  cases hfound : before.find? (fun e => decide (e.kind = .speed ∧ e.Covers c)) with
  | some d => rfl
  | none =>
    have hmissed : ¬ (Edit.speed r slow).Covers c := by
      refine fun hcovers => h ⟨hcovers, fun d hd hkind hfirst => ?_⟩
      exact List.find?_eq_none.mp hfound d hd (decide_eq_true ⟨hkind, hfirst⟩)
    simp only [List.find?_cons, hsame, hmissed, and_false, decide_false]

end Rates

/-! ### The length of one clip -/

namespace Clip

variable {before after : List (Edit Rat)} {r : Span Rat} {slow fast : Rat} {c : Clip Rat}

theorem untimed_attach_of_rate (before after : List (Edit Rat)) (r : Span Rat) (slow fast : Rat)
    (c : Clip Rat) :
    (attach (before ++ .speed r fast :: after) c).untimed =
      (attach (before ++ .speed r slow :: after) c).untimed := by
  have hvolume : EditKind.volume ≠ .speed := by decide
  have htransform : EditKind.transform ≠ .speed := by decide
  simp only [attach, untimed, volumeOf, transformOf,
    covering?_of_rate hvolume before after r slow fast,
    covering?_of_rate htransform before after r slow fast]

theorem length_attach_of_leads (hpos : 0 < slow) (h : (Edit.speed r slow).Leads before c)
    (after : List (Edit Rat)) :
    (attach (before ++ .speed r slow :: after) c).length = c.duration / slow := by
  have hfirst := covering?_of_leads h after
  have hrate : rateOf (before ++ .speed r slow :: after) c = slow := by
    rw [rateOf, shownEdit?, show EditKind.speed = (Edit.speed r slow).kind from rfl, hfirst]
    exact effectiveRate_of_pos hpos
  change c.duration / effectiveRate (rateOf _ c) = _
  rw [hrate, effectiveRate_of_pos hpos]

/-- The clip that an edit leads is shown for less time at a higher rate. -/
theorem length_attach_lt (hc : c.Measured) (hslow : 0 < slow) (hlt : slow < fast)
    (h : (Edit.speed r slow).Leads before c) (after : List (Edit Rat)) :
    (attach (before ++ .speed r fast :: after) c).length <
      (attach (before ++ .speed r slow :: after) c).length := by
  have hduration : 0 < c.duration := by
    rw [hc.duration_eq]
    exact sub_pos.mpr hc.forward
  have hfast : (Edit.speed r fast).Leads before c := h
  rw [length_attach_of_leads (hslow.trans hlt) hfast, length_attach_of_leads hslow h]
  exact div_lt_div_of_pos_left hduration hslow hlt

/-- No other clip sees the rate. -/
theorem length_attach_eq (h : ¬ (Edit.speed r slow).Leads before c) (fast : Rat)
    (after : List (Edit Rat)) :
    (attach (before ++ .speed r fast :: after) c).length =
      (attach (before ++ .speed r slow :: after) c).length := by
  have hsplit : EditKind.split ≠ .speed := by decide
  have hrate : rateOf (before ++ .speed r fast :: after) c =
      rateOf (before ++ .speed r slow :: after) c := by
    rw [rateOf, rateOf, shownEdit?, shownEdit?, covering?_of_not_leads h fast after,
      covering?_of_rate hsplit before after r slow fast]
  change c.duration / effectiveRate (rateOf _ c) = c.duration / effectiveRate (rateOf _ c)
  rw [hrate]

theorem length_attach_le (hc : c.Measured) (hslow : 0 < slow) (hlt : slow < fast)
    (before after : List (Edit Rat)) (r : Span Rat) :
    (attach (before ++ .speed r fast :: after) c).length ≤
      (attach (before ++ .speed r slow :: after) c).length := by
  by_cases h : (Edit.speed r slow).Leads before c
  · exact le_of_lt (length_attach_lt hc hslow hlt h after)
  · exact le_of_eq (length_attach_eq h fast after)

/-! ### Laying out -/

/-- Attributes do not change the order in which clips are laid out. -/
theorem inMediaOrder_map_attach {α : Type} [Scalar α] (edits : List (Edit α))
    (clips : List (Clip α)) :
    inMediaOrder (clips.map (attach edits)) = (inMediaOrder clips).map (attach edits) := by
  have hsort := List.map_mergeSort (f := attach edits)
    (r := fun a b => Scalar.precedes a.span.start b.span.start)
    (s := fun a b => Scalar.precedes a.span.start b.span.start) (l := clips) fun _ _ _ _ => rfl
  exact hsort.symm

theorem placeFrom_snd (cursor : Rat) (clips : List (Clip Rat)) :
    (placeFrom cursor clips).2 = cursor + (clips.map length).sum := by
  induction clips generalizing cursor with
  | nil => exact (add_zero cursor).symm
  | cons c rest ih =>
    rw [placeFrom_cons, List.map_cons, List.sum_cons, ← add_assoc]
    exact ih _

/-- Clips that are shown no longer than before and laid out from no later on start no later. -/
theorem forall₂_placeFrom {cursor cursor' : Rat} {clips : List (Clip Rat)}
    {f g : Clip Rat → Clip Rat} {R : Clip Rat → Clip Rat → Prop} (hcursor : cursor' ≤ cursor)
    (hle : ∀ c ∈ clips, (g c).length ≤ (f c).length)
    (hR : ∀ c ∈ clips, ∀ start start', start' ≤ start →
      R { f c with displayDuration := (f c).length, timelineStart := start }
        { g c with displayDuration := (g c).length, timelineStart := start' }) :
    List.Forall₂ R (placeFrom cursor (clips.map f)).1 (placeFrom cursor' (clips.map g)).1 := by
  induction clips generalizing cursor cursor' with
  | nil => exact List.Forall₂.nil
  | cons c rest ih =>
    rw [List.map_cons, List.map_cons, placeFrom_cons, placeFrom_cons]
    refine List.Forall₂.cons (hR c List.mem_cons_self cursor cursor' hcursor) ?_
    apply ih
    · exact add_le_add hcursor (hle c List.mem_cons_self)
    · exact fun d hd => hle d (List.mem_cons_of_mem c hd)
    · exact fun d hd => hR d (List.mem_cons_of_mem c hd)

end Clip

namespace Timeline

section Laid

variable {α : Type} [Scalar α] {edits : List (Edit α)} {clips : List (Clip α)} {c : Clip α}

/-- What is laid out: the pieces that no delete covers, in media order. -/
def laid (edits : List (Edit α)) (clips : List (Clip α)) : List (Clip α) :=
  Clip.inMediaOrder (clips.filter (!deleted edits ·))

theorem mem_of_mem_laid (h : c ∈ laid edits clips) : c ∈ clips :=
  (List.mem_filter.mp ((Clip.inMediaOrder_perm _).mem_iff.mp h)).1

theorem place_retained (edits : List (Edit α)) (clips : List (Clip α)) :
    Clip.place (retained edits clips) =
      Clip.placeFrom 0 ((laid edits clips).map (Clip.attach edits)) := by
  rw [Clip.place_eq, retained, Clip.inMediaOrder_map_attach]
  rfl

theorem spans_compile (picks : List (Pick α)) (edits : List (Edit α)) (duration : α) :
    (compile picks edits duration).clips.map (·.span) =
      (laid (usable picks edits duration) (pieces picks edits duration)).map (·.span) := by
  have h := congrArg (List.map (·.span)) (unplaced_compile picks edits duration)
  rw [retained, Clip.inMediaOrder_map_attach, List.map_map, List.map_map, List.map_map] at h
  exact h

end Laid

/-! ### Two rates for one edit -/

variable {picks : List (Pick Rat)} {edits others before after : List (Edit Rat)} {r : Span Rat}
  {slow fast duration : Rat}

theorem total_compile (picks : List (Pick Rat)) (edits : List (Edit Rat)) (duration : Rat) :
    (compile picks edits duration).total =
      ((laid (usable picks edits duration) (pieces picks edits duration)).map fun c =>
        (Clip.attach (usable picks edits duration) c).length).sum := by
  rw [compile_total, place_retained, Clip.placeFrom_snd, zero_add, List.map_map]
  rfl

theorem laid_of_rate (hslow : usable picks edits duration = before ++ .speed r slow :: after)
    (hfast : usable picks others duration = before ++ .speed r fast :: after) :
    laid (usable picks others duration) (pieces picks others duration) =
      laid (usable picks edits duration) (pieces picks edits duration) := by
  simp only [laid, pieces, hslow, hfast, splitMargin_of_rate before after r slow fast,
    Edit.boundaries_of_rate before after r slow fast, deleted_of_rate before after r slow fast]

theorem measured_of_mem_laid {c : Clip Rat}
    (h : c ∈ laid (usable picks edits duration) (pieces picks edits duration)) : c.Measured :=
  measured_of_mem_pieces (mem_of_mem_laid h)

section TwoRates

variable (hpos : 0 < slow) (hlt : slow < fast)
  (hslow : usable picks edits duration = before ++ .speed r slow :: after)
  (hfast : usable picks others duration = before ++ .speed r fast :: after)

include hpos hlt hslow hfast

theorem forall₂_clips_of_rate :
    List.Forall₂ (fun c d => c.Hastened ((Edit.speed r slow).Leads before c) d)
      (compile picks edits duration).clips (compile picks others duration).clips := by
  rw [compile_clips, compile_clips, place_retained, place_retained, laid_of_rate hslow hfast]
  refine Clip.forall₂_placeFrom (le_refl 0) ?_ ?_
  · intro c hc
    rw [hslow, hfast]
    exact Clip.length_attach_le (measured_of_mem_laid hc) hpos hlt before after r
  · intro c hc start start' hstart
    rw [hslow, hfast]
    exact ⟨Clip.untimed_attach_of_rate before after r slow fast c, hstart,
      fun h => Clip.length_attach_lt (measured_of_mem_laid hc) hpos hlt h after,
      fun h => Clip.length_attach_eq h fast after⟩

theorem total_lt_of_rate
    (h : ∃ c ∈ (compile picks edits duration).clips, (Edit.speed r slow).Leads before c) :
    (compile picks others duration).total < (compile picks edits duration).total := by
  obtain ⟨c, hc, hleads⟩ := h
  have hmem := List.mem_map_of_mem (f := (·.span)) hc
  rw [spans_compile, List.mem_map] at hmem
  obtain ⟨d, hd, hspan⟩ := hmem
  rw [total_compile, total_compile, laid_of_rate hslow hfast]
  refine List.sum_lt_sum _ _ ?_ ⟨d, hd, ?_⟩
  · intro c hc
    rw [hslow, hfast]
    exact Clip.length_attach_le (measured_of_mem_laid hc) hpos hlt before after r
  · rw [hslow, hfast]
    exact Clip.length_attach_lt (measured_of_mem_laid hd) hpos hlt
      ((Edit.leads_congr hspan).mpr hleads) after

omit hpos hlt in
theorem total_eq_of_rate
    (h : ∀ c ∈ (compile picks edits duration).clips, ¬ (Edit.speed r slow).Leads before c) :
    (compile picks others duration).total = (compile picks edits duration).total := by
  rw [total_compile, total_compile, laid_of_rate hslow hfast]
  refine congrArg List.sum (List.map_congr_left fun d hd => ?_)
  have hmem := List.mem_map_of_mem (f := (·.span)) hd
  rw [← spans_compile, List.mem_map] at hmem
  obtain ⟨c, hc, hspan⟩ := hmem
  rw [hslow, hfast]
  exact Clip.length_attach_eq (mt (Edit.leads_congr hspan).mpr (h c hc)) fast after

end TwoRates

theorem normal?_speed (limit : Rat) (r : Span Rat) {rate : Rat} (h : 0 < rate) :
    (Edit.speed r rate).normal? limit =
      if (Edit.clampedSpan limit r).stop ≤ (Edit.clampedSpan limit r).start then none
      else some (.speed (Edit.clampedSpan limit r) rate) := by
  rw [Edit.normal?_of_span rfl, if_pos ⟨Rational.isFinite_eq_true _, Rational.isFinite_eq_true _⟩]
  simp only [Edit.sanitized, effectiveRate_of_pos h]
  rfl

/-- A higher rate for one change of speed leaves every clip but for its speed and its place. The
clips that the change owns are shown for less time and all others for as long, no clip starts later,
and the timeline is shorter if the change owns a clip, and as long if it owns none. -/
theorem compile_of_faster (picks : List (Pick Rat)) (before after : List (Edit Rat))
    (span : Span Rat) (slow fast duration : Rat) (hpos : 0 < slow) (hlt : slow < fast) :
    let S := compile picks (before ++ .speed span slow :: after) duration
    let T := compile picks (before ++ .speed span fast :: after) duration
    let Own := (Edit.speed span slow).Owns (mediaLimit picks duration) before
    List.Forall₂ (fun c d => c.Hastened (Own c) d) S.clips T.clips ∧
      ((∃ c ∈ S.clips, Own c) → T.total < S.total) ∧
      ((∀ c ∈ S.clips, ¬ Own c) → T.total = S.total) := by
  intro S T Own
  have hslow := normal?_speed (mediaLimit picks duration) span hpos
  have hfast := normal?_speed (mediaLimit picks duration) span (hpos.trans hlt)
  split at hslow
  · -- The edit is dropped at either rate.
    rename_i hempty
    rw [if_pos hempty] at hfast
    have hsame : T = S := by
      simp only [T, S, compile, Edit.normalized_append_cons, hslow, hfast]
    have hnone (c : Clip Rat) : ¬ Own c := by
      rintro ⟨n, hn, -⟩
      rw [hslow] at hn
      cases hn
    rw [hsame]
    refine ⟨List.forall₂_same.mpr fun c _ => ?_, ?_, fun _ => rfl⟩
    · exact ⟨rfl, le_refl _, fun h => absurd h (hnone c), fun _ => rfl⟩
    · rintro ⟨c, -, hc⟩
      exact absurd hc (hnone c)
  · rename_i hlong
    rw [if_neg hlong] at hfast
    have hown (c : Clip Rat) : Own c ↔
        (Edit.speed (Edit.clampedSpan (mediaLimit picks duration) span) slow).Leads
          (Edit.normalized (mediaLimit picks duration) before) c := by
      simp [Own, Edit.Owns, hslow]
    have husable := Edit.normalized_append_cons (mediaLimit picks duration) before
      (.speed span slow) after
    have husable' := Edit.normalized_append_cons (mediaLimit picks duration) before
      (.speed span fast) after
    rw [hslow] at husable
    rw [hfast] at husable'
    simp only [hown]
    exact ⟨forall₂_clips_of_rate hpos hlt husable husable',
      total_lt_of_rate hpos hlt husable husable', total_eq_of_rate husable husable'⟩

/-- The middle one of three speeds, over the middle one of three pieces. The last speed reaches
over all of them, and the first one leads only where it comes first. -/
theorem compile_of_faster_middle :
    let picks : List (Pick Rat) := [.over ⟨0, 10⟩]
    let before : List (Edit Rat) := [.speed ⟨0, 2⟩ 3]
    let after : List (Edit Rat) := [.speed ⟨0, 10⟩ 4]
    let S := compile picks (before ++ .speed ⟨2, 6⟩ 1 :: after) 10
    let T := compile picks (before ++ .speed ⟨2, 6⟩ 2 :: after) 10
    let Own := (Edit.speed ⟨2, 6⟩ 1 : Edit Rat).Owns (mediaLimit picks 10) before
    (0 : Rat) < 1 ∧ (1 : Rat) < 2 ∧ (∃ c ∈ S.clips, c.span = ⟨2, 6⟩ ∧ Own c) ∧
      List.Forall₂ (fun c d => c.Hastened (Own c) d) S.clips T.clips ∧ T.total < S.total := by
  intro picks before after S T Own
  have hpos : (0 : Rat) < 1 := by decide +kernel
  have hlt : (1 : Rat) < 2 := by decide +kernel
  have husable : usable picks (before ++ .speed ⟨2, 6⟩ 1 :: after) 10 =
      before ++ .speed ⟨2, 6⟩ 1 :: after := by decide +kernel
  have hpoints : Edit.boundaries (usable picks (before ++ .speed ⟨2, 6⟩ 1 :: after) 10) =
      [2, 6, 10] := by
    rw [husable, Edit.boundaries_of_pairwise (by decide +kernel)]
    decide +kernel
  have hpiece : ∃ p ∈ pieces picks (before ++ .speed ⟨2, 6⟩ 1 :: after) 10,
      deleted (usable picks (before ++ .speed ⟨2, 6⟩ 1 :: after) 10) p = false ∧
        p.span = ⟨2, 6⟩ := by
    rw [pieces, hpoints, husable]
    decide +kernel
  obtain ⟨p, hp, hkept, hspan⟩ := hpiece
  obtain ⟨c, hc, heq⟩ := exists_clip hp hkept
  have hcspan : c.span = ⟨2, 6⟩ := (span_of_attach heq).trans hspan
  have hnormal : (Edit.speed ⟨2, 6⟩ 1 : Edit Rat).normal? (mediaLimit picks 10) =
      some (.speed ⟨2, 6⟩ 1) := by decide +kernel
  have hleads : (Edit.speed ⟨2, 6⟩ 1 : Edit Rat).Leads
      (Edit.normalized (mediaLimit picks 10) before) (.source "" ⟨2, 6⟩) := by decide +kernel
  have hown : Own c := ⟨_, hnormal, (Edit.leads_congr hcspan).mpr hleads⟩
  obtain ⟨hclips, hshorter, -⟩ := compile_of_faster picks before after ⟨2, 6⟩ 1 2 10 hpos hlt
  exact ⟨hpos, hlt, ⟨c, hc, hcspan, hown⟩, hclips, hshorter ⟨c, hc, hown⟩⟩

end Timeline

end Montage
