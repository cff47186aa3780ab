import Montage.Proofs.Timeline.Clocks
import Montage.Proofs.Timeline.Fixpoint

/-! Selections that follow each other compile one by one. No clip is cut, deleted or changed with
regard to another, and the clips of an earlier selection only move those of a later one on the
output clock. Which order the selection is given in does not show at all. -/
namespace Montage

/-- Spans that run forward and share no instant start apart. -/
theorem Span.start_ne_of_apart {a b : Span Rat} (ha : a.start < a.stop) (hb : b.start < b.stop)
    (h : a.Apart b) : a.start ≠ b.start := by
  intro heq
  exact h a.start ⟨⟨le_refl _, ha⟩, ⟨le_of_eq heq.symm, heq ▸ hb⟩⟩

theorem Span.Within.forward {a b : Span Rat} (h : a.Within b) (ha : a.start < a.stop) :
    b.start < b.stop :=
  lt_of_le_of_lt h.1 (lt_of_lt_of_le ha h.2)

namespace Clip

section Placing

variable {α : Type} [Scalar α]

/-- The clip, shown later on the output clock. -/
def later (wait : α) (c : Clip α) : Clip α :=
  { c with timelineStart := c.timelineStart + wait }

theorem placeFrom_append (cursor : α) (clips others : List (Clip α)) :
    placeFrom cursor (clips ++ others) =
      let first := placeFrom cursor clips
      let second := placeFrom first.2 others
      (first.1 ++ second.1, second.2) := by
  induction clips generalizing cursor with
  | nil => rfl
  | cons c rest ih => rw [List.cons_append, placeFrom_cons, ih, placeFrom_cons]; rfl

end Placing

variable {clips others : List (Clip Rat)}

theorem placeFrom_add (cursor wait : Rat) (clips : List (Clip Rat)) :
    placeFrom (cursor + wait) clips =
      ((placeFrom cursor clips).1.map (later wait), (placeFrom cursor clips).2 + wait) := by
  induction clips generalizing cursor with
  | nil => rfl
  | cons c rest ih =>
    rw [placeFrom_cons, placeFrom_cons, add_right_comm, ih]
    rfl

/-- Clips that start apart have one order only. -/
theorem inMediaOrder_eq_of_perm (hperm : clips.Perm others)
    (hstarts : clips.Pairwise fun a b => a.span.start ≠ b.span.start)
    (hsorted : others.Pairwise fun a b => Scalar.precedes a.span.start b.span.start) :
    inMediaOrder clips = others := by
  refine List.Perm.eq_of_pairwise ?_ (pairwise_inMediaOrder clips) hsorted
    ((inMediaOrder_perm clips).trans hperm)
  intro a b ha hb hab hba
  have ha := (inMediaOrder_perm clips).mem_iff.mp ha
  have hb := hperm.mem_iff.mpr hb
  have heq : a.span.start = b.span.start :=
    le_antisymm (of_decide_eq_true hab) (of_decide_eq_true hba)
  rcases eq_or_before hstarts ha hb with h | h | h
  · exact h
  · exact absurd heq h
  · exact absurd heq.symm h

/-- Clips that all start before others are laid out before them. -/
theorem place_append (hstarts : (clips ++ others).Pairwise fun a b => a.span.start ≠ b.span.start)
    (hbefore : ∀ a ∈ clips, ∀ b ∈ others, a.span.start ≤ b.span.start) :
    place (clips ++ others) =
      ((place clips).1 ++ (place others).1.map (later (place clips).2),
        (place others).2 + (place clips).2) := by
  have hsorted : (inMediaOrder clips ++ inMediaOrder others).Pairwise fun a b =>
      Scalar.precedes a.span.start b.span.start := by
    refine List.pairwise_append.mpr
      ⟨pairwise_inMediaOrder clips, pairwise_inMediaOrder others, ?_⟩
    intro a ha b hb
    exact decide_eq_true (hbefore a ((inMediaOrder_perm clips).mem_iff.mp ha) b
      ((inMediaOrder_perm others).mem_iff.mp hb))
  have hperm : (clips ++ others).Perm (inMediaOrder clips ++ inMediaOrder others) :=
    ((inMediaOrder_perm clips).append (inMediaOrder_perm others)).symm
  have hsecond := placeFrom_add 0 (place clips).2 (inMediaOrder others)
  rw [zero_add] at hsecond
  rw [place_eq, inMediaOrder_eq_of_perm hperm hstarts hsorted, placeFrom_append, ← place_eq]
  dsimp only
  rw [hsecond, ← place_eq]

end Clip

namespace Timeline

section Lists

variable {α : Type} [Scalar α] {picks others : List (Pick α)} {edits : List (Edit α)}

theorem baseClips_of_ne_nil (h : picks ≠ []) (limit : α) :
    baseClips picks limit = (picks.map Clip.ofPick).filter (0 < ·.duration) :=
  if_neg (by simpa using h)

theorem baseClips_append (hpicks : picks ≠ []) (hothers : others ≠ []) (limit : α) :
    baseClips (picks ++ others) limit = baseClips picks limit ++ baseClips others limit := by
  rw [baseClips_of_ne_nil hpicks, baseClips_of_ne_nil hothers,
    baseClips_of_ne_nil (by simp [hpicks]), List.map_append, List.filter_append]

theorem survivors_append (edits : List (Edit α)) (clips others : List (Clip α)) :
    survivors edits (clips ++ others) = survivors edits clips ++ survivors edits others := by
  simp only [survivors_eq, retained, Clip.splitAll_eq_flatMap _ _ (clips ++ others),
    Clip.splitAll_eq_flatMap _ _ clips, Clip.splitAll_eq_flatMap _ _ others, List.flatMap_append,
    List.filter_append, List.map_append]

theorem baseClips_perm (h : picks.Perm others) (limit : α) :
    (baseClips picks limit).Perm (baseClips others limit) := by
  by_cases hnil : picks = []
  · rw [hnil] at h ⊢
    rw [List.nil_perm.mp h]
  · have hnil' : others ≠ [] := fun heq => hnil (List.perm_nil.mp (heq ▸ h))
    rw [baseClips_of_ne_nil hnil, baseClips_of_ne_nil hnil']
    exact (h.map _).filter _

theorem survivors_perm {clips others : List (Clip α)} (edits : List (Edit α))
    (h : clips.Perm others) : (survivors edits clips).Perm (survivors edits others) := by
  rw [survivors_eq, survivors_eq, retained, retained, Clip.splitAll_eq_flatMap _ _ clips,
    Clip.splitAll_eq_flatMap _ _ others]
  exact ((h.flatMap_right _).filter _).map _

end Lists

variable {picks others : List (Pick Rat)} {edits : List (Edit Rat)} {duration : Rat} {c : Clip Rat}

theorem mediaLimit_perm (h : picks.Perm others) (duration : Rat) :
    mediaLimit picks duration = mediaLimit others duration := by
  rw [mediaLimit, mediaLimit, Rational.maximum_eq, Rational.maximum_eq,
    (h.map (·.span.stop)).foldl_eq]

theorem starts_ne_survivors (edits : List (Edit Rat)) (duration : Rat)
    (hapart : picks.Pairwise fun a b => a.span.Apart b.span) :
    (survivors (usable picks edits duration)
      (baseClips picks (mediaLimit picks duration))).Pairwise
        fun a b => a.span.start ≠ b.span.start := by
  have hpieces : (pieces picks edits duration).Pairwise fun a b => a.span.Apart b.span :=
    apart_pieces hapart
  rw [survivors_eq]
  refine List.pairwise_map.mpr (List.Pairwise.filter _ (hpieces.imp_of_mem ?_))
  intro a b ha hb hab
  exact Span.start_ne_of_apart (measured_of_mem_pieces ha).forward
    (measured_of_mem_pieces hb).forward hab

theorem exists_piece_of_mem_survivors (hc : c ∈ survivors (usable picks edits duration)
    (baseClips picks (mediaLimit picks duration))) :
    ∃ p ∈ pieces picks edits duration, c.span = p.span := by
  obtain ⟨p, hp, rfl⟩ := List.mem_map.mp hc
  exact ⟨p, (List.mem_filter.mp hp).1, rfl⟩

/-- Pieces of two selections without overlaps start in the order of the spans that they are cut
from. -/
theorem start_le_of_mem_pieces (hpicks : picks ≠ []) (hothers : others ≠ [])
    (hapart : ∀ a ∈ picks, ∀ b ∈ others, a.span.Apart b.span)
    (hbefore : ∀ a ∈ picks, ∀ b ∈ others, a.span.start < b.span.start) {p q : Clip Rat}
    (hp : p ∈ pieces picks edits duration) (hq : q ∈ pieces others edits duration) :
    p.span.start ≤ q.span.start := by
  have hpick {selection : List (Pick Rat)} {r : Clip Rat} (hne : selection ≠ [])
      (hr : r ∈ pieces selection edits duration) : ∃ a ∈ selection, r.span.Within a.span := by
    obtain ⟨s, hs, hwithin⟩ := exists_baseSpan hr
    rw [baseSpans, if_neg (by simpa using hne)] at hs
    obtain ⟨a, ha, rfl⟩ := List.mem_map.mp hs
    exact ⟨a, ha, hwithin⟩
  obtain ⟨a, ha, hpa⟩ := hpick hpicks hp
  obtain ⟨b, hb, hqb⟩ := hpick hothers hq
  have hpforward := (measured_of_mem_pieces hp).forward
  have hqforward := (measured_of_mem_pieces hq).forward
  have hbforward : b.span.start < b.span.stop := hqb.forward hqforward
  rcases Span.le_or_le_of_apart (hpa.forward hpforward) hbforward (hapart a ha b hb) with h | h
  · calc p.span.start ≤ p.span.stop := le_of_lt hpforward
      _ ≤ a.span.stop := hpa.2
      _ ≤ b.span.start := h
      _ ≤ q.span.start := hqb.1
  · exact absurd (hbefore a ha b hb) (not_lt.mpr (le_of_lt (lt_of_lt_of_le hbforward h)))

theorem compile_append (hpos : 0 < duration) (hpicks : picks ≠ []) (hothers : others ≠ [])
    (hapart : (picks ++ others).Pairwise fun a b => a.span.Apart b.span)
    (hbefore : ∀ a ∈ picks, ∀ b ∈ others, a.span.start < b.span.start) :
    (compile (picks ++ others) edits duration).clips =
      (compile picks edits duration).clips ++ (compile others edits duration).clips.map
        (Clip.later (compile picks edits duration).total) ∧
    (compile (picks ++ others) edits duration).total =
      (compile picks edits duration).total + (compile others edits duration).total := by
  have hlimit (selection : List (Pick Rat)) : mediaLimit selection duration = duration :=
    mediaLimit_of_known (Rational.isFinite_eq_true duration) hpos selection
  have hstarts := starts_ne_survivors edits duration hapart
  have hcross := (List.pairwise_append.mp hapart).2.2
  have hordered : ∀ a ∈ survivors (usable picks edits duration)
        (baseClips picks (mediaLimit picks duration)),
      ∀ b ∈ survivors (usable others edits duration)
        (baseClips others (mediaLimit others duration)), a.span.start ≤ b.span.start := by
    intro a ha b hb
    obtain ⟨p, hp, hpspan⟩ := exists_piece_of_mem_survivors ha
    obtain ⟨q, hq, hqspan⟩ := exists_piece_of_mem_survivors hb
    rw [hpspan, hqspan]
    exact start_le_of_mem_pieces hpicks hothers hcross hbefore hp hq
  simp only [usable, hlimit] at hstarts hordered
  rw [baseClips_append hpicks hothers, survivors_append] at hstarts
  have hplace := Clip.place_append hstarts hordered
  rw [← survivors_append, ← baseClips_append hpicks hothers] at hplace
  constructor
  · simp only [compile, hlimit, ofClips, hplace]
  · simp only [compile, hlimit, ofClips, hplace]
    exact add_comm _ _

/-- The order in which the selection is given does not show. -/
theorem compile_perm (hperm : picks.Perm others)
    (hapart : picks.Pairwise fun a b => a.span.Apart b.span) :
    compile picks edits duration = compile others edits duration := by
  have hlimit := mediaLimit_perm hperm duration
  have hstarts := starts_ne_survivors edits duration hapart
  rw [usable, hlimit] at hstarts
  have hsurvivors := survivors_perm (Edit.normalized (mediaLimit others duration) edits)
    (baseClips_perm hperm (mediaLimit others duration))
  rw [compile, compile, hlimit]
  apply ofClips_congr
  rw [Clip.place_eq, Clip.place_eq]
  congr 1
  exact Clip.inMediaOrder_eq_of_perm (hsurvivors.trans (Clip.inMediaOrder_perm _).symm) hstarts
    (Clip.pairwise_inMediaOrder _)

/-- In exact arithmetic, a selection in front of another moves the clips of the other by its own
length and does nothing else to them, and the order of a selection does not show. -/
theorem compile_append_and_perm (edits : List (Edit Rat)) (duration : Rat) :
    (∀ picks others : List (Pick Rat), 0 < duration → picks ≠ [] → others ≠ [] →
      ((picks ++ others).Pairwise fun a b => a.span.Apart b.span) →
      (∀ a ∈ picks, ∀ b ∈ others, a.span.start < b.span.start) →
      let S := compile picks edits duration
      let T := compile others edits duration
      (compile (picks ++ others) edits duration).clips =
          S.clips ++ T.clips.map (Clip.later S.total) ∧
        (compile (picks ++ others) edits duration).total = S.total + T.total) ∧
    ∀ picks others : List (Pick Rat), picks.Perm others →
      (picks.Pairwise fun a b => a.span.Apart b.span) →
      compile picks edits duration = compile others edits duration :=
  ⟨fun _ _ hpos hpicks hothers hapart hbefore =>
    compile_append hpos hpicks hothers hapart hbefore,
    fun _ _ hperm hapart => compile_perm hperm hapart⟩

/-- A cut in the first pick and a change of speed over the second, and the picks the other way
round. -/
theorem compile_append_and_perm_of_two_picks :
    let first : Pick Rat := .over ⟨0, 4⟩
    let second : Pick Rat := .over ⟨6, 9⟩
    let edits : List (Edit Rat) := [.delete ⟨0, 2⟩, .speed ⟨6, 9⟩ 2]
    let S := compile [first] edits 10
    let T := compile [second] edits 10
    [first, second].Pairwise (fun a b => a.span.Apart b.span) ∧
      first.span.start < second.span.start ∧
      (compile [first, second] edits 10).clips = S.clips ++ T.clips.map (Clip.later S.total) ∧
      (compile [first, second] edits 10).total = S.total + T.total ∧
      compile [second, first] edits 10 = compile [first, second] edits 10 := by
  intro first second edits S T
  have hapart : [first, second].Pairwise fun a b => a.span.Apart b.span :=
    List.pairwise_pair.mpr (Span.apart_of_le (by decide +kernel))
  have hlt : first.span.start < second.span.start := by decide +kernel
  have hbefore : ∀ a ∈ [first], ∀ b ∈ [second], a.span.start < b.span.start := by
    simpa using hlt
  obtain ⟨happend, hperm⟩ := compile_append_and_perm edits 10
  obtain ⟨hclips, htotal⟩ :=
    happend [first] [second] (by decide +kernel) (by simp) (by simp) hapart hbefore
  exact ⟨hapart, hlt, hclips, htotal,
    (hperm [first, second] [second, first] (List.Perm.swap _ _ _) hapart).symm⟩

end Timeline

end Montage
