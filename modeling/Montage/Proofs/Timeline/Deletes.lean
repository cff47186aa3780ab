import Montage.Proofs.Timeline.Pieces

/-! What a delete leaves behind. A clip that a delete overlaps and does not cover is cut at the
rounded ends of the delete, unless rounding carries an end into the margin of the clip. -/
namespace Montage.Timeline

section Definitions

variable {α : Type} [Scalar α]

/-- The range starts too far inside the clip to cover it, but its rounded start is too near to the
start of the clip to cut there. -/
def SlipsAtStart (range clip : Span α) : Prop :=
  clip.start + deleteSlack < range.start ∧ Scalar.roundTo range.start 2 ≤ clip.start + deleteSlack

/-- The range stops too far inside the clip to cover it, but its rounded stop is too near to the
stop of the clip to cut there. -/
def SlipsAtStop (range clip : Span α) : Prop :=
  range.stop < clip.stop - deleteSlack ∧ clip.stop - deleteSlack ≤ Scalar.roundTo range.stop 2

theorem splitMargin_of_delete {edits : List (Edit α)} {r : Span α} (h : .delete r ∈ edits) :
    splitMargin edits = deleteSlack := by
  have hany : edits.any (·.kind = .delete) = true := List.any_eq_true.mpr ⟨_, h, rfl⟩
  exact if_pos hany

end Definitions

variable {picks : List (Pick Rat)} {edits : List (Edit Rat)} {duration : Rat} {c p : Clip Rat}
  {r : Span Rat}

/-- A positive end of a delete, rounded, does not lie well inside any piece. -/
theorem outside_of_delete_end (hp : p ∈ pieces picks edits duration)
    (hr : .delete r ∈ usable picks edits duration) {t : Rat} (ht : t = r.start ∨ t = r.stop)
    (hpos : 0 < t) :
    Scalar.roundTo t 2 ≤ p.span.start + deleteSlack ∨
      p.span.stop - deleteSlack ≤ Scalar.roundTo t 2 := by
  have houtside := outside_of_end hp hr rfl rfl ht hpos
  rwa [splitMargin_of_delete hr] at houtside

/-- A piece that a delete overlaps and does not cover is one where an end of the delete slips. -/
theorem slips_of_not_covers (hstarts : ∀ pick ∈ picks, 0 ≤ pick.span.start)
    (hp : p ∈ pieces picks edits duration) (hr : .delete r ∈ usable picks edits duration)
    (hlong : 0.05 < p.span.overlap r) (hnot : ¬ r.Covers deleteSlack p.span) :
    SlipsAtStart r p.span ∨ SlipsAtStop r p.span := by
  obtain ⟨hzero, hforward⟩ := Edit.delete_bounds hr
  have hpstart := start_nonneg_of_mem_pieces hstarts hp
  have hslack : (deleteSlack : Rat) = 0.02 := rfl
  have hoverlap : p.span.overlap r ≤ p.span.stop - r.start ∧
      p.span.overlap r ≤ r.stop - p.span.start :=
    ⟨sub_le_sub (min_le_left _ _) (le_max_right _ _),
      sub_le_sub (min_le_right _ _) (le_max_left _ _)⟩
  -- Rounding moves an end by 0.005 at most, so an end that is kept from cutting by the far side of
  -- the piece leaves too little overlap.
  rcases not_and_or.mp hnot with hstart | hstop
  · have hstart : p.span.start + deleteSlack < r.start := not_le.mp hstart
    have hround := abs_le.mp (Rational.abs_roundTo_two_sub_le r.start)
    have hpos : 0 < r.start := by rw [hslack] at hstart; linarith
    rcases outside_of_delete_end hp hr (Or.inl rfl) hpos with h | h
    · exact Or.inl ⟨hstart, h⟩
    · rw [hslack] at h
      linarith [hround.2, hoverlap.1]
  · have hstop : r.stop < p.span.stop - deleteSlack := not_le.mp hstop
    have hround := abs_le.mp (Rational.abs_roundTo_two_sub_le r.stop)
    rcases outside_of_delete_end hp hr (Or.inr rfl) (by linarith) with h | h
    · rw [hslack] at h
      linarith [hround.1, hoverlap.2]
    · exact Or.inr ⟨hstop, h⟩

/-- A clip in which more than a twentieth of a second of a delete stays is one where an end of the
delete slips. -/
theorem slips_of_mem_clips (hstarts : ∀ pick ∈ picks, 0 ≤ pick.span.start)
    (hc : c ∈ (compile picks edits duration).clips) (hr : .delete r ∈ usable picks edits duration)
    (hlong : 0.05 < c.span.overlap r) : SlipsAtStart r c.span ∨ SlipsAtStop r c.span := by
  obtain ⟨p, hp, hkept, heq⟩ := exists_piece hc
  rw [span_of_attach heq] at hlong ⊢
  refine slips_of_not_covers hstarts hp hr hlong ?_
  intro hcovers
  rw [deleted_iff.mpr ⟨r, hr, hcovers⟩] at hkept
  cases hkept

/-- What rounding leaves where it is does not slip. -/
theorem not_slips_of_rounded {clip : Span Rat} (hstart : Scalar.roundTo r.start 2 = r.start)
    (hstop : Scalar.roundTo r.stop 2 = r.stop) :
    ¬ (SlipsAtStart r clip ∨ SlipsAtStop r clip) := by
  rintro (⟨h, hround⟩ | ⟨h, hround⟩)
  · rw [hstart] at hround
    exact absurd h (not_lt.mpr hround)
  · rw [hstop] at hround
    exact absurd h (not_lt.mpr hround)

/-- Deletes between whole hundredths take effect. -/
theorem overlap_le_of_rounded (hstarts : ∀ pick ∈ picks, 0 ≤ pick.span.start)
    (hrounded : ∀ r, .delete r ∈ usable picks edits duration →
      Scalar.roundTo r.start 2 = r.start ∧ Scalar.roundTo r.stop 2 = r.stop)
    (hc : c ∈ (compile picks edits duration).clips)
    (hr : .delete r ∈ usable picks edits duration) : c.span.overlap r ≤ 0.05 := by
  by_contra hlong
  obtain ⟨hstart, hstop⟩ := hrounded r hr
  exact not_slips_of_rounded hstart hstop (slips_of_mem_clips hstarts hc hr (not_le.mp hlong))

/-- Deletes take effect exactly when each piece at which an end of a delete slips is covered by
another delete. -/
theorem overlap_le_iff (picks : List (Pick Rat)) (edits : List (Edit Rat)) (duration : Rat)
    (hstarts : ∀ pick ∈ picks, 0 ≤ pick.span.start) :
    (∀ c ∈ (compile picks edits duration).clips, ∀ r,
      .delete r ∈ usable picks edits duration → c.span.overlap r ≤ 0.05) ↔
    ∀ p ∈ pieces picks edits duration, ∀ r, .delete r ∈ usable picks edits duration →
      0.05 < p.span.overlap r → SlipsAtStart r p.span ∨ SlipsAtStop r p.span →
      deleted (usable picks edits duration) p = true := by
  constructor
  · intro h p hp r hr hlong _
    by_contra hkept
    obtain ⟨c, hc, heq⟩ := exists_clip hp (by simpa using hkept)
    have hshort := h c hc r hr
    rw [span_of_attach heq] at hshort
    exact absurd hlong (not_lt.mpr hshort)
  · intro h c hc r hr
    by_contra hlong
    have hlong := not_le.mp hlong
    have hslips := slips_of_mem_clips hstarts hc hr hlong
    obtain ⟨p, hp, hkept, heq⟩ := exists_piece hc
    rw [span_of_attach heq] at hlong hslips
    rw [h p hp r hr hlong hslips] at hkept
    cases hkept

theorem overlap_le_of_whole_hundredths :
    let picks : List (Pick Rat) := [.over ⟨0, 30⟩]
    let edits : List (Edit Rat) := [.delete ⟨10, 20⟩]
    (∀ pick ∈ picks, 0 ≤ pick.span.start) ∧
      ∀ c ∈ (compile picks edits 30).clips, ∀ r, .delete r ∈ usable picks edits 30 →
        c.span.overlap r ≤ 0.05 := by
  intro picks edits
  have hstarts : ∀ pick ∈ picks, 0 ≤ pick.span.start := by decide +kernel
  refine ⟨hstarts, (overlap_le_iff picks edits 30 hstarts).mpr ?_⟩
  have husable : usable picks edits 30 = [.delete ⟨10, 20⟩] := by decide +kernel
  intro p _ r hr _ hslips
  rw [husable, List.mem_singleton, Edit.delete.injEq] at hr
  subst hr
  exact absurd hslips (not_slips_of_rounded (by decide +kernel) (by decide +kernel))

/-- A delete of all but the start of a clip. Its start slips, so the whole clip stays. -/
theorem exists_overlap_of_slip :
    let picks : List (Pick Rat) := [.over ⟨0, 10⟩]
    let edits : List (Edit Rat) := [.delete ⟨0.024, 10⟩]
    picks.Pairwise (fun a b => a.span.Apart b.span) ∧ (∀ pick ∈ picks, 0 ≤ pick.span.start) ∧
      ∃ c ∈ (compile picks edits 10).clips, ∃ r, .delete r ∈ usable picks edits 10 ∧
        0.05 < c.span.overlap r := by
  intro picks edits
  have husable : usable picks edits 10 = [.delete ⟨0.024, 10⟩] := by decide +kernel
  have hpoints : Edit.boundaries (usable picks edits 10) = [0.02, 10] := by
    rw [husable, Edit.boundaries_of_pairwise (by decide +kernel)]
    decide +kernel
  have hpieces : pieces picks edits 10 = [Clip.ofPick (.over ⟨0, 10⟩)] := by
    rw [pieces, hpoints]
    decide +kernel
  have hpiece : Clip.ofPick (.over ⟨0, 10⟩) ∈ pieces picks edits 10 := by
    rw [hpieces]
    exact List.mem_singleton_self _
  obtain ⟨c, hc, heq⟩ := exists_clip hpiece (by rw [husable]; decide +kernel)
  refine ⟨List.pairwise_singleton _ _, by decide +kernel, c, hc, ⟨0.024, 10⟩, ?_, ?_⟩
  · rw [husable]
    exact List.mem_singleton_self _
  · rw [show c.span = ⟨0, 10⟩ from span_of_attach heq]
    decide +kernel

end Montage.Timeline
