import Montage.Proofs.Clip.Attributes
import Montage.Proofs.Timeline.Coverage
import Montage.Proofs.Timeline.Pieces

/-! Attributes hold instant by instant. An edit covers the clip at every instant well inside its
window, and covers no clip at an instant well outside. -/
namespace Montage

section Definitions

variable {α : Type} [Scalar α]

/-- The window of the edit comes within `slack` of the instant. -/
def Edit.Nears (slack : α) (e : Edit α) (t : α) : Prop :=
  ∃ r, e.span? = some r ∧ r.Reaches slack t

/-- The edit decides its attribute at an instant: its window reaches past the instant by more than
0.105 on both sides, and no earlier edit of its kind comes within 0.2. -/
def Edit.Governs (e : Edit α) (edits : List (Edit α)) (t : α) : Prop :=
  (∃ r, e.span? = some r ∧ r.start + 0.105 < t ∧ t < r.stop - 0.105) ∧
    ∃ before after, edits = before ++ e :: after ∧
      ∀ d ∈ before, d.kind = e.kind → ¬ d.Nears 0.2 t

end Definitions

namespace Timeline

variable {picks : List (Pick Rat)} {edits : List (Edit Rat)} {duration t : Rat} {c p : Clip Rat}
  {e : Edit Rat} {r : Span Rat}

theorem splitMargin_le (edits : List (Edit Rat)) : splitMargin edits ≤ 0.1 := by
  unfold splitMargin
  split
  · decide +kernel
  · exact le_refl _

/-- An edit that covers a clip comes near each of its instants. -/
theorem nears_of_covers (h : e.Covers p) (ht : p.span.Holds t) : e.Nears 0.2 t := by
  obtain ⟨r, hr, hstart, hstop⟩ := h
  have hstart : r.start ≤ p.span.start + 0.2 := hstart
  have hstop : p.span.stop - 0.2 ≤ r.stop := hstop
  obtain ⟨hlow, hhigh⟩ := Span.holds_iff.mp ht
  have hlow' : r.start - 0.2 ≤ t := by linarith
  have hhigh' : t ≤ r.stop + 0.2 := by linarith
  exact ⟨r, hr, hlow', hhigh'⟩

/-- An edit that cuts covers the piece at each instant well inside its window. Rounding moves an end
by 0.005 at most, so the end that the instant keeps away from the far side of the piece is near the
close side. -/
theorem covers_of_inside (hstarts : ∀ pick ∈ picks, 0 ≤ pick.span.start)
    (hp : p ∈ pieces picks edits duration) (he : e ∈ usable picks edits duration)
    (hcuts : e.isOverlay = false) (hr : e.span? = some r) (ht : p.span.Holds t)
    (hlow : r.start + 0.105 < t) (hhigh : t < r.stop - 0.105) : e.Covers p := by
  have hzero := Edit.start_nonneg_of_mem_normalized he hr
  have hpstart := start_nonneg_of_mem_pieces hstarts hp
  have hmargin := splitMargin_le (usable picks edits duration)
  have hslack : (Clip.attributeSlack : Rat) = 0.2 := rfl
  obtain ⟨hpt, htp⟩ := Span.holds_iff.mp ht
  refine ⟨r, hr, ?_, ?_⟩
  · change r.start ≤ p.span.start + Clip.attributeSlack
    rw [hslack]
    rcases eq_or_lt_of_le hzero with hstart | hpos
    · linarith
    · have hround := abs_le.mp (Rational.abs_roundTo_two_sub_le r.start)
      rcases outside_of_end hp he hcuts hr (Or.inl rfl) hpos with h | h
      · linarith [hround.1]
      · linarith [hround.2]
  · change p.span.stop - Clip.attributeSlack ≤ r.stop
    rw [hslack]
    have hpos : 0 < r.stop := by linarith
    have hround := abs_le.mp (Rational.abs_roundTo_two_sub_le r.stop)
    rcases outside_of_end hp he hcuts hr (Or.inr rfl) hpos with h | h
    · linarith [hround.1]
    · linarith [hround.2]

theorem covering?_of_governs (hstarts : ∀ pick ∈ picks, 0 ≤ pick.span.start)
    (hp : p ∈ pieces picks edits duration) (ht : p.span.Holds t) (hcuts : e.isOverlay = false)
    (h : e.Governs (usable picks edits duration) t) :
    Clip.covering? e.kind (usable picks edits duration) p = some e := by
  obtain ⟨⟨r, hr, hlow, hhigh⟩, before, after, hsplit, hfirst⟩ := h
  have he : e ∈ usable picks edits duration := by simp [hsplit]
  have hcovers := covers_of_inside hstarts hp he hcuts hr ht hlow hhigh
  refine Clip.covering?_eq_some_iff.mpr ⟨⟨rfl, hcovers⟩, before, after, hsplit, ?_⟩
  rintro d hd ⟨hkind, hcovers⟩
  exact hfirst d hd hkind (nears_of_covers hcovers ht)

theorem carries_of_governs (hstarts : ∀ pick ∈ picks, 0 ≤ pick.span.start)
    (hc : c ∈ (compile picks edits duration).clips) (ht : c.span.Holds t)
    (h : e.Governs (usable picks edits duration) t) : c.Carries e := by
  obtain ⟨p, hp, -, heq⟩ := exists_piece hc
  rw [span_of_attach heq] at ht
  rw [Clip.carries_congr heq]
  cases hcuts : e.isOverlay with
  | true =>
    cases e with
    | text | fade => trivial
    | _ => cases hcuts
  | false =>
    refine Clip.carries_attach (covering?_of_governs hstarts hp ht hcuts h) ?_
    rintro r rate rfl
    obtain ⟨-, before, after, hsplit, -⟩ := h
    have he : Edit.speed r rate ∈ usable picks edits duration := by simp [hsplit]
    exact Edit.effectiveRate_of_mem_normalized he

theorem carriesNone_of_not_nears (hc : c ∈ (compile picks edits duration).clips)
    (ht : c.span.Holds t) {kind : EditKind}
    (h : ∀ e ∈ usable picks edits duration, e.kind = kind → ¬ e.Nears 0.2 t) :
    c.CarriesNone kind := by
  obtain ⟨p, hp, -, heq⟩ := exists_piece hc
  rw [span_of_attach heq] at ht
  rw [Clip.carriesNone_congr heq]
  refine Clip.carriesNone_attach (Clip.covering?_eq_none_iff.mpr ?_)
  rintro e he ⟨hkind, hcovers⟩
  exact h e he hkind (nears_of_covers hcovers ht)

/-- At each instant of a clip, the clip shows the edit of each kind that governs the instant, and
nothing of a kind that does not come near. -/
theorem attributes_of_holds (picks : List (Pick Rat)) (edits : List (Edit Rat)) (duration : Rat)
    (hstarts : ∀ pick ∈ picks, 0 ≤ pick.span.start) :
    ∀ c ∈ (compile picks edits duration).clips, ∀ t, c.span.Holds t →
      (∀ e, e.Governs (usable picks edits duration) t → c.Carries e) ∧
      ∀ kind, (∀ e ∈ usable picks edits duration, e.kind = kind → ¬ e.Nears 0.2 t) →
        c.CarriesNone kind :=
  fun _ hc _ ht => ⟨fun _ => carries_of_governs hstarts hc ht,
    fun _ => carriesNone_of_not_nears hc ht⟩

/-- The first of two speeds holds where both reach, and a volume that stops earlier is not heard. -/
theorem attributes_of_two_speeds :
    let picks : List (Pick Rat) := [.over ⟨0, 30⟩]
    let edits : List (Edit Rat) := [.speed ⟨10, 20⟩ 2, .volume ⟨3, 8⟩ 0.5, .speed ⟨5, 25⟩ 3]
    (∀ pick ∈ picks, 0 ≤ pick.span.start) ∧
      ∃ c ∈ (compile picks edits 30).clips, c.span.Holds 11 ∧ c.rate = 2 ∧ c.volume = 1 := by
  intro picks edits
  have hstarts : ∀ pick ∈ picks, 0 ≤ pick.span.start := by decide +kernel
  have husable : usable picks edits 30 = edits := by decide +kernel
  have hbase : (⟨0, 30⟩ : Span Rat) ∈ baseSpans picks 30 := by decide +kernel
  have hkeeps : (compile picks edits 30).Keeps 11 := by
    rcases keeps_or_reaches edits hbase (t := 11) ⟨by decide +kernel, by decide +kernel⟩ with
      h | ⟨r, hr, -⟩
    · exact h
    · rw [husable] at hr
      simp [edits] at hr
  obtain ⟨c, hc, ht⟩ := hkeeps
  obtain ⟨hgoverns, hnone⟩ := attributes_of_holds picks edits 30 hstarts c hc 11 ht
  refine ⟨hstarts, c, hc, ht, hgoverns (.speed ⟨10, 20⟩ 2) ?_, hnone .volume ?_⟩
  · rw [husable]
    exact ⟨⟨⟨10, 20⟩, rfl, by decide +kernel, by decide +kernel⟩, [], _, rfl, by simp⟩
  · rw [husable]
    rintro e he hkind ⟨r, hr, -, hstop⟩
    simp only [edits, List.mem_cons, List.not_mem_nil, or_false] at he
    rcases he with rfl | rfl | rfl
    · cases hkind
    · obtain rfl := Option.some.inj hr
      exact absurd hstop (by decide +kernel)
    · cases hkind

end Timeline

end Montage
