import Mathlib
import Montage.Proofs.Number.Exact
import Montage.Span

/-! Spans beside, inside and after one another. Spans that tile a whole hold each of its instants
exactly once. -/
namespace Montage.Span

section Relations

variable {α : Type}

/-- No instant lies in both. -/
def Apart [Scalar α] (a b : Span α) : Prop :=
  ∀ t, ¬ (a.Holds t ∧ b.Holds t)

def Within [Scalar α] (inner outer : Span α) : Prop :=
  outer.start ≤ inner.start ∧ inner.stop ≤ outer.stop

/-- The spans lie end to end and fill the whole. -/
def Tiles : Span α → List (Span α) → Prop
  | whole, [] => whole.start = whole.stop
  | whole, s :: rest => s.start = whole.start ∧ Tiles ⟨s.stop, whole.stop⟩ rest

theorem tiles_singleton (s : Span α) : Tiles s [s] :=
  ⟨rfl, rfl⟩

theorem tiles_append {start mid stop : α} {xs ys : List (Span α)}
    (hx : Tiles ⟨start, mid⟩ xs) (hy : Tiles ⟨mid, stop⟩ ys) : Tiles ⟨start, stop⟩ (xs ++ ys) := by
  induction xs generalizing start with
  | nil =>
    obtain rfl : start = mid := hx
    exact hy
  | cons s rest ih => exact ⟨hx.1, ih hx.2⟩

/-- Replacing every tile by tiles of it tiles the same whole. -/
theorem tiles_flatMap {β : Type} {spanOf : β → Span α} {parts : β → List β} {whole : Span α}
    {xs : List β} (hparts : ∀ x ∈ xs, Tiles (spanOf x) ((parts x).map spanOf))
    (h : Tiles whole (xs.map spanOf)) : Tiles whole ((xs.flatMap parts).map spanOf) := by
  induction xs generalizing whole with
  | nil => exact h
  | cons x rest ih =>
    have hhead := hparts x List.mem_cons_self
    rw [List.flatMap_cons, List.map_append]
    obtain ⟨hstart, htail⟩ := h
    have hrest := ih (fun y hy => hparts y (List.mem_cons_of_mem x hy)) htail
    rw [show spanOf x = ⟨whole.start, (spanOf x).stop⟩ from
      congrArg (Span.mk · (spanOf x).stop) hstart] at hhead
    exact tiles_append hhead hrest

end Relations

/-! ### In exact arithmetic -/

section Exact

variable {a b s whole : Span Rat} {spans : List (Span Rat)} {t : Rat}

/-- How long two spans run together; negative when there is room between them. -/
def overlap (a b : Span Rat) : Rat :=
  min a.stop b.stop - max a.start b.start

theorem holds_iff : s.Holds t ↔ s.start ≤ t ∧ t < s.stop := Iff.rfl

theorem le_or_le_of_apart (ha : a.start < a.stop) (hb : b.start < b.stop) (h : a.Apart b) :
    a.stop ≤ b.start ∨ b.stop ≤ a.start := by
  by_contra hmeet
  obtain ⟨hab, hba⟩ := not_or.mp hmeet
  have hab := not_le.mp hab
  have hba := not_le.mp hba
  refine h (max a.start b.start) ⟨⟨le_max_left _ _, ?_⟩, ⟨le_max_right _ _, ?_⟩⟩
  · exact max_lt ha hab
  · exact max_lt hba hb

theorem apart_of_le (h : a.stop ≤ b.start) : a.Apart b := by
  rintro t ⟨⟨-, hta⟩, ⟨hbt, -⟩⟩
  exact absurd (lt_of_lt_of_le hta h) (not_lt.mpr hbt)

theorem apart_of_within {a' b' : Span Rat} (ha : a'.Within a) (hb : b'.Within b)
    (h : a.Apart b) : a'.Apart b' := by
  rintro t ⟨⟨ha₁, ha₂⟩, ⟨hb₁, hb₂⟩⟩
  exact h t ⟨⟨le_trans ha.1 ha₁, lt_of_lt_of_le ha₂ ha.2⟩,
    ⟨le_trans hb.1 hb₁, lt_of_lt_of_le hb₂ hb.2⟩⟩

theorem start_le_stop_of_tiles (h : Tiles whole spans) (hf : ∀ s ∈ spans, s.start < s.stop) :
    whole.start ≤ whole.stop := by
  induction spans generalizing whole with
  | nil => exact le_of_eq h
  | cons s rest ih =>
    have hs := hf s List.mem_cons_self
    have hrest : s.stop ≤ whole.stop := ih h.2 fun r hr => hf r (List.mem_cons_of_mem s hr)
    have hstart : s.start = whole.start := h.1
    linarith

theorem within_of_tiles (h : Tiles whole spans) (hf : ∀ s ∈ spans, s.start < s.stop) :
    ∀ s ∈ spans, s.Within whole := by
  induction spans generalizing whole with
  | nil => simp
  | cons s rest ih =>
    have hs := hf s List.mem_cons_self
    have hfr : ∀ r ∈ rest, r.start < r.stop := fun r hr => hf r (List.mem_cons_of_mem s hr)
    have hstop : s.stop ≤ whole.stop := start_le_stop_of_tiles h.2 hfr
    have hstart : s.start = whole.start := h.1
    intro r hr
    rcases List.mem_cons.mp hr with rfl | hr
    · exact ⟨le_of_eq hstart.symm, hstop⟩
    · obtain ⟨hlow, hhigh⟩ := ih h.2 hfr r hr
      refine ⟨?_, hhigh⟩
      change s.stop ≤ r.start at hlow
      linarith

theorem pairwise_of_tiles (h : Tiles whole spans) (hf : ∀ s ∈ spans, s.start < s.stop) :
    spans.Pairwise fun a b => a.stop ≤ b.start := by
  induction spans generalizing whole with
  | nil => exact List.Pairwise.nil
  | cons s rest ih =>
    have hfr : ∀ r ∈ rest, r.start < r.stop := fun r hr => hf r (List.mem_cons_of_mem s hr)
    exact List.pairwise_cons.mpr ⟨fun r hr => (within_of_tiles h.2 hfr r hr).1, ih h.2 hfr⟩

theorem holds_iff_of_tiles (h : Tiles whole spans) (hf : ∀ s ∈ spans, s.start < s.stop) :
    whole.Holds t ↔ ∃ s ∈ spans, s.Holds t := by
  constructor
  · intro ht
    induction spans generalizing whole with
    | nil =>
      have hempty : whole.start = whole.stop := h
      rw [holds_iff, hempty] at ht
      exact absurd ht.2 (not_lt.mpr ht.1)
    | cons s rest ih =>
      have hstart : s.start = whole.start := h.1
      by_cases hts : t < s.stop
      · exact ⟨s, List.mem_cons_self, ⟨hstart ▸ ht.1, hts⟩⟩
      · obtain ⟨r, hr, hrt⟩ := ih h.2 (fun r hr => hf r (List.mem_cons_of_mem s hr))
          ⟨not_lt.mp hts, ht.2⟩
        exact ⟨r, List.mem_cons_of_mem s hr, hrt⟩
  · rintro ⟨s, hs, hst⟩
    obtain ⟨hlow, hhigh⟩ := within_of_tiles h hf s hs
    exact ⟨le_trans hlow hst.1, lt_of_lt_of_le hst.2 hhigh⟩

theorem sum_of_tiles (h : Tiles whole spans) :
    (spans.map fun s => s.stop - s.start).sum = whole.stop - whole.start := by
  induction spans generalizing whole with
  | nil =>
    have hempty : whole.start = whole.stop := h
    rw [hempty, sub_self]
    rfl
  | cons s rest ih =>
    have hstart : s.start = whole.start := h.1
    have hrest := ih h.2
    rw [List.map_cons, List.sum_cons, hrest]
    change s.stop - s.start + (whole.stop - s.stop) = _
    linarith

end Exact

end Montage.Span
