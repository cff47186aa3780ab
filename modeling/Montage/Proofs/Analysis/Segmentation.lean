import Mathlib
import Montage.Analysis.Features
import Montage.Proofs.Selection.Greedy
import Montage.Proofs.Timeline.Faster
import Montage.Proofs.Timeline.Order

/-! Made-up segments are a segmentation: equal windows that tile the media, with shares in range.
Whatever is selected of them compiles to just that. -/
namespace Montage

/-! ### Shares -/

namespace Rational

variable {x : Rat} {low high : Int}

/-- Rounding to hundredths goes past no hundredth. -/
theorem roundTo_two_bounds (hlow : (low : Rat) / 100 ≤ x) (hhigh : x ≤ (high : Rat) / 100) :
    (low : Rat) / 100 ≤ Scalar.roundTo x 2 ∧ Scalar.roundTo x 2 ≤ (high : Rat) / 100 := by
  have hround : Scalar.roundTo x 2 = nearest (x * 100) / 100 := by
    have h := roundTo_eq x 2
    norm_num at h
    exact h
  have hleast := le_nearest (x := x * 100) (m := low) (by linarith)
  have hmost := nearest_le (x := x * 100) (m := high) (by linarith)
  rw [hround]
  constructor <;> linarith

theorem clampUnit_of_unit (hlow : 0 ≤ x) (hhigh : x ≤ 1) : Scalar.clampUnit x = x := by
  rw [Scalar.clampUnit, if_pos (isFinite_eq_true x), Scalar.clamp, if_neg (not_lt.mpr hlow),
    if_neg (not_lt.mpr hhigh)]

end Rational

namespace Placeholder

variable {draw : Nat → Rat} {duration : Rat}

/-- A share lies between the least share and one. -/
theorem share_bounds {low range d : Rat} {least : Int} (hleast : low = least / 100)
    (hrange : low + range = 1) (hlow : low ≤ 1) (hd : 0 ≤ d ∧ d < 1) :
    low ≤ share low range d ∧ share low range d ≤ 1 := by
  have hpos : 0 ≤ range := by linarith
  have hproduct : 0 ≤ d * range := mul_nonneg hd.1 hpos
  have hrest : d * range ≤ range := mul_le_of_le_one_left hpos (le_of_lt hd.2)
  have h : (least : Rat) / 100 ≤ share low range d ∧ share low range d ≤ (100 : Int) / 100 :=
    Rational.roundTo_two_bounds (by linarith) (by push_cast; linarith)
  rw [← hleast] at h
  refine ⟨h.1, le_of_le_of_eq h.2 ?_⟩
  norm_num

/-! ### Windows -/

theorem six_le_count (duration : Rat) : 6 ≤ count duration :=
  Nat.le_add_right _ _

theorem count_le_twelve (duration : Rat) : count duration ≤ 12 :=
  Nat.add_le_add_left (List.length_filter_le _ _) 6

/-- How long each window is. -/
def windowLength (duration : Rat) : Rat :=
  duration / count duration

theorem count_mul_windowLength (duration : Rat) :
    (count duration : Rat) * windowLength duration = duration := by
  have hcount : (count duration : Rat) ≠ 0 := by
    have := six_le_count duration
    exact_mod_cast (by omega : count duration ≠ 0)
  exact mul_div_cancel₀ duration hcount

theorem windowLength_pos (hpos : 0 < duration) : 0 < windowLength duration := by
  have hcount : (0 : Rat) < count duration := by
    have := six_le_count duration
    exact_mod_cast (by omega : 0 < count duration)
  exact div_pos hpos hcount

/-- The last window, too, stops where a next one would start. -/
theorem window_eq (duration : Rat) (index : Nat) :
    window duration (count duration) index =
      ⟨index * windowLength duration, ((index + 1 : Nat) : Rat) * windowLength duration⟩ := by
  unfold window
  dsimp only
  split
  · rename_i hlast
    rw [hlast, count_mul_windowLength]
    rfl
  · rfl

theorem window_forward (hpos : 0 < duration) (index : Nat) :
    (window duration (count duration) index).start <
      (window duration (count duration) index).stop := by
  rw [window_eq]
  refine mul_lt_mul_of_pos_right ?_ (windowLength_pos hpos)
  exact_mod_cast Nat.lt_succ_self index

theorem tiles_windows (duration : Rat) (n : Nat) :
    Span.Tiles ⟨0, n * windowLength duration⟩
      ((List.range n).map (window duration (count duration))) := by
  induction n with
  | zero => exact (by simp : (0 : Rat) = ((0 : Nat) : Rat) * windowLength duration)
  | succ n ih =>
    rw [List.range_succ, List.map_append, List.map_singleton, window_eq]
    exact Span.tiles_append ih (Span.tiles_singleton _)

/-! ### Segments -/

theorem segments_eq (draw : Nat → Rat) (hpos : 0 < duration) :
    segments draw duration = (List.range (count duration)).map fun index =>
      segment (fun k => draw (6 * index + k)) (window duration (count duration) index) :=
  if_pos ⟨Rational.isFinite_eq_true duration, hpos⟩

theorem length_segments (draw : Nat → Rat) (hpos : 0 < duration) :
    (segments draw duration).length = count duration := by
  rw [segments_eq draw hpos, List.length_map, List.length_range]

theorem tiles_segments (draw : Nat → Rat) (hpos : 0 < duration) :
    Span.Tiles ⟨0, duration⟩ ((segments draw duration).map (·.span)) := by
  have h := tiles_windows duration (count duration)
  rw [count_mul_windowLength] at h
  rw [segments_eq draw hpos, List.map_map]
  exact h

/-- A segment of some length, which it states, with its shares in the range of the draws. -/
structure WellDrawn (s : Segment Rat) : Prop where
  forward : s.span.start < s.span.stop
  duration_eq : s.duration = s.span.stop - s.span.start
  energy : 0.3 ≤ s.energy ∧ s.energy ≤ 1
  motion : 0.2 ≤ s.tags.motion ∧ s.tags.motion ≤ 1
  speech : 0.2 ≤ s.tags.speech ∧ s.tags.speech ≤ 1

theorem wellDrawn_segment {draws : Nat → Rat} (hdraws : ∀ k, 0 ≤ draws k ∧ draws k < 1)
    {span : Span Rat} (hspan : span.start < span.stop) : WellDrawn (segment draws span) := by
  have hshare (low range : Rat) (least : Int) (k : Nat) (hleast : low = least / 100)
      (hrange : low + range = 1) (hlow : 0 ≤ low ∧ low ≤ 1) :
      low ≤ Scalar.clampUnit (share low range (draws k)) ∧
        Scalar.clampUnit (share low range (draws k)) ≤ 1 := by
    have h := share_bounds hleast hrange hlow.2 (hdraws k)
    rw [Rational.clampUnit_of_unit (le_trans hlow.1 h.1) h.2]
    exact h
  exact
    { forward := hspan
      duration_eq := Scalar.max_zero_of_pos (sub_pos.mpr hspan)
      energy := hshare 0.3 0.7 30 0 (by norm_num) (by norm_num) (by norm_num)
      motion := hshare 0.2 0.8 20 1 (by norm_num) (by norm_num) (by norm_num)
      speech := hshare 0.2 0.8 20 2 (by norm_num) (by norm_num) (by norm_num) }

theorem wellDrawn_of_mem_segments (hdraw : ∀ k, 0 ≤ draw k ∧ draw k < 1) (hpos : 0 < duration)
    {s : Segment Rat} (hs : s ∈ segments draw duration) : WellDrawn s := by
  rw [segments_eq draw hpos, List.mem_map] at hs
  obtain ⟨index, -, rfl⟩ := hs
  exact wellDrawn_segment (fun k => hdraw _) (window_forward hpos index)

end Placeholder

/-! ### Selecting and compiling -/

/-- Picks of segments that tile something are apart. -/
theorem Selection.apart_picks {segments : List (Segment Rat)} {whole : Span Rat}
    (htiles : Span.Tiles whole (segments.map (·.span)))
    (hforward : ∀ s ∈ segments, s.span.start < s.span.stop) (intent : Intent Rat) :
    (ofSegments segments intent).picks.Pairwise fun p q => p.span.Apart q.span := by
  have hgreedy := isGreedy_ofSegments segments intent
  have hspans : ∀ span ∈ segments.map (·.span), span.start < span.stop := by
    simpa using hforward
  have hordered := List.pairwise_map.mp (Span.pairwise_of_tiles htiles hspans)
  have hapart : segments.Pairwise fun s t => s.span.Apart t.span := hordered.imp Span.apart_of_le
  have hsymm : Std.Symm fun s t : Segment Rat => s.span.Apart t.span :=
    ⟨fun _ _ => Span.apart_comm⟩
  refine (List.pairwise_map.mp hgreedy.distinct).imp_of_mem fun {p q} hp hq hid => ?_
  exact hapart.forall (hgreedy.copied p hp) (hgreedy.copied q hq) fun heq => hid (by rw [heq])

namespace Timeline

variable {picks : List (Pick Rat)} {duration : Rat}

theorem baseClips_of_forward (hne : picks ≠ [])
    (hforward : ∀ p ∈ picks, p.span.start < p.span.stop) (limit : Rat) :
    baseClips picks limit = picks.map Clip.ofPick := by
  have hempty : ¬ picks.isEmpty = true := by simpa using hne
  rw [baseClips, if_neg hempty, List.filter_eq_self]
  intro c hc
  obtain ⟨p, hp, rfl⟩ := List.mem_map.mp hc
  exact decide_eq_true ((duration_source_pos_iff p.id).mpr (hforward p hp))

theorem pieces_nil (picks : List (Pick Rat)) (duration : Rat) :
    pieces picks [] duration = baseClips picks (mediaLimit picks duration) := by
  have husable : usable picks [] duration = [] := rfl
  have hpoints : Edit.boundaries ([] : List (Edit Rat)) = [] := by
    rw [Edit.boundaries_of_pairwise List.Pairwise.nil]
    simp [Edit.points, withoutRepeats]
  rw [pieces, husable, hpoints, Clip.splitAll_nil]

/-- What is selected plays in its order, each span at its own speed, when nothing is edited. -/
theorem laid_nil (hne : picks ≠ []) (hforward : ∀ p ∈ picks, p.span.start < p.span.stop)
    (hsorted : picks.Pairwise fun p q => p.span.start ≤ q.span.start) (duration : Rat) :
    laid (usable picks [] duration) (pieces picks [] duration) = picks.map Clip.ofPick := by
  have hkept : (picks.map Clip.ofPick).filter (!deleted (usable picks [] duration) ·) =
      picks.map Clip.ofPick := List.filter_eq_self.mpr fun _ _ => rfl
  rw [laid, pieces_nil, baseClips_of_forward hne hforward, hkept]
  refine Clip.inMediaOrder_of_pairwise (List.pairwise_map.mpr (hsorted.imp ?_))
  exact fun h => decide_eq_true h

theorem compile_nil (hne : picks ≠ []) (hforward : ∀ p ∈ picks, p.span.start < p.span.stop)
    (hsorted : picks.Pairwise fun p q => p.span.start ≤ q.span.start) (duration : Rat) :
    (compile picks [] duration).clips.map (·.span) = picks.map (·.span) ∧
      (compile picks [] duration).total = (picks.map fun p => p.span.stop - p.span.start).sum := by
  constructor
  · rw [spans_compile, laid_nil hne hforward hsorted, List.map_map]
    rfl
  · rw [total_compile, laid_nil hne hforward hsorted, List.map_map]
    refine congrArg List.sum (List.map_congr_left fun p hp => ?_)
    have hduration : (Clip.ofPick p).duration = p.span.stop - p.span.start :=
      Scalar.max_zero_of_pos (sub_pos.mpr (hforward p hp))
    change (Clip.ofPick p).duration / effectiveRate 1 = _
    rw [hduration, effectiveRate_of_pos zero_lt_one, div_one]

end Timeline

namespace Placeholder

variable {draw : Nat → Rat} {duration : Rat}

/-- What is selected of made-up segments compiles to itself. -/
theorem compile_selected (hdraw : ∀ k, 0 ≤ draw k ∧ draw k < 1) (hpos : 0 < duration)
    {intent : Intent Rat}
    (hne : (Selection.ofSegments (segments draw duration) intent).picks ≠ []) :
    let selection := Selection.ofSegments (segments draw duration) intent
    let timeline := Timeline.compile selection.picks [] duration
    timeline.clips.map (·.span) = selection.picks.map (·.span) ∧
      timeline.total = selection.total := by
  intro selection timeline
  have hgreedy : Selection.IsGreedy _ _ selection := Selection.isGreedy_ofSegments _ intent
  have hdrawn : ∀ p ∈ selection.picks, WellDrawn p.toSegment :=
    fun p hp => wellDrawn_of_mem_segments hdraw hpos (hgreedy.copied p hp)
  obtain ⟨hspans, htotal⟩ := Timeline.compile_nil hne (fun p hp => (hdrawn p hp).forward)
    hgreedy.ordered duration
  refine ⟨hspans, ?_⟩
  rw [htotal, hgreedy.total_eq]
  exact congrArg List.sum (List.map_congr_left fun p hp => (hdrawn p hp).duration_eq.symm)

/-- Segments made up for media of a known length are 6 to 12 windows of some length that follow
each other from zero to the end of the media. Whatever is selected of them is apart, and compiles
to itself. -/
theorem segments_of_draws (draw : Nat → Rat) (hdraw : ∀ k, 0 ≤ draw k ∧ draw k < 1)
    (duration : Rat) (hpos : 0 < duration) :
    let made := segments draw duration
    (6 ≤ made.length ∧ made.length ≤ 12) ∧
    Span.Tiles ⟨0, duration⟩ (made.map (·.span)) ∧
    (∀ s ∈ made, WellDrawn s) ∧
    ∀ intent : Intent Rat,
      let selection := Selection.ofSegments made intent
      let timeline := Timeline.compile selection.picks [] duration
      selection.picks.Pairwise (fun p q => p.span.Apart q.span) ∧
      (selection.picks ≠ [] →
        timeline.clips.map (·.span) = selection.picks.map (·.span) ∧
        timeline.total = selection.total) := by
  intro made
  have htiles : Span.Tiles ⟨0, duration⟩ (made.map (·.span)) := tiles_segments draw hpos
  have hdrawn : ∀ s ∈ made, WellDrawn s := fun s hs => wellDrawn_of_mem_segments hdraw hpos hs
  refine ⟨?_, htiles, hdrawn, fun intent => ⟨?_, compile_selected hdraw hpos⟩⟩
  · rw [length_segments draw hpos]
    exact ⟨six_le_count duration, count_le_twelve duration⟩
  · exact Selection.apart_picks htiles (fun s hs => (hdrawn s hs).forward) intent

/-- Media of 47.3 seconds, of which the opening is kept at least. -/
theorem segments_of_draws_opening :
    let draw : Nat → Rat := fun k => ((k % 7 : Nat) : Rat) / 7
    let made := segments draw 47.3
    let selection := Selection.ofSegments made (Intent.default.aiming 12)
    (∀ k, 0 ≤ draw k ∧ draw k < 1) ∧ (0 : Rat) < 47.3 ∧ 6 ≤ made.length ∧
      Span.Tiles ⟨0, 47.3⟩ (made.map (·.span)) ∧ selection.picks ≠ [] ∧
      (Timeline.compile selection.picks [] 47.3).total = selection.total := by
  intro draw made selection
  have hdraw : ∀ k, 0 ≤ draw k ∧ draw k < 1 := by
    intro k
    have hlt : ((k % 7 : Nat) : Rat) < 7 := by exact_mod_cast Nat.mod_lt k (by decide)
    exact ⟨by positivity, (div_lt_one (by norm_num)).mpr hlt⟩
  have hpos : (0 : Rat) < 47.3 := by norm_num
  obtain ⟨⟨hmany, -⟩, htiles, -, hselect⟩ := segments_of_draws draw hdraw 47.3 hpos
  have hne : selection.picks ≠ [] := by
    have hsome : made ≠ [] := List.length_pos_iff.mp (Nat.lt_of_lt_of_le (by decide) hmany)
    obtain ⟨first, hfirst⟩ := Option.isSome_iff_exists.mp (List.isSome_head?.mpr hsome)
    have hid := (Selection.isGreedy_ofSegments made (Intent.default.aiming 12)).anchored first.id
      (Or.inl ⟨rfl, first, hfirst, rfl⟩)
    intro hnone
    change first.id ∈ selection.picks.map (·.id) at hid
    rw [hnone] at hid
    cases hid
  exact ⟨hdraw, hpos, hmany, htiles, hne, ((hselect (Intent.default.aiming 12)).2 hne).2⟩

end Placeholder

end Montage
