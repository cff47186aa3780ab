import Montage.Edit.Normal
import Montage.Proofs.Number.Exact

/-! Usable edits lie between zero and the limit and run forward. -/
namespace Montage.Edit

section Kinds

variable {α : Type} [Scalar α]

@[simp] theorem kind_sanitized (e : Edit α) : e.sanitized.kind = e.kind := by
  cases e <;> rfl

@[simp] theorem span?_sanitized (e : Edit α) : e.sanitized.span? = e.span? := by
  cases e <;> rfl

omit [Scalar α] in
theorem span?_withSpan {e : Edit α} {span : Span α} (h : e.span?.isSome) :
    (e.withSpan span).span? = some span := by
  cases e <;> first | rfl | cases h

omit [Scalar α] in
theorem withSpan_self {e : Edit α} {r : Span α} (h : e.span? = some r) : e.withSpan r = e := by
  cases e <;> first | (obtain rfl := Option.some.inj h; rfl) | cases h

omit [Scalar α] in
theorem withSpan_withSpan (e : Edit α) (span r : Span α) :
    (e.withSpan span).withSpan r = e.withSpan r := by
  cases e <;> rfl

theorem normal?_of_span {limit : α} {e : Edit α} {r : Span α} (h : e.span? = some r) :
    e.normal? limit =
      if Scalar.isFinite r.start ∧ Scalar.isFinite r.stop then
        if e.IsEmptyOn (clampedSpan limit r) then none
        else some (e.sanitized.withSpan (clampedSpan limit r))
      else none := by
  rw [normal?, h]

theorem eq_of_normal? {limit : α} {raw e : Edit α} (h : raw.normal? limit = some e) :
    e = raw.sanitized ∨ ∃ span, e = raw.sanitized.withSpan span := by
  unfold normal? at h
  split at h
  · exact Or.inl (Option.some.inj h).symm
  · split at h
    · dsimp only at h
      split at h
      · cases h
      · exact Or.inr ⟨_, (Option.some.inj h).symm⟩
    · cases h

theorem kind_of_normal? {limit : α} {raw e : Edit α} (h : raw.normal? limit = some e) :
    e.kind = raw.kind := by
  rcases eq_of_normal? h with rfl | ⟨span, rfl⟩
  · exact kind_sanitized raw
  · rw [kind_withSpan, kind_sanitized]

theorem mem_normalized {limit : α} {edits : List (Edit α)} {e : Edit α} :
    e ∈ normalized limit edits ↔ ∃ raw ∈ edits, raw.normal? limit = some e :=
  List.mem_filterMap

theorem normalized_append_cons (limit : α) (before : List (Edit α)) (e : Edit α)
    (after : List (Edit α)) :
    normalized limit (before ++ e :: after) =
      normalized limit before ++ ((e.normal? limit).toList ++ normalized limit after) := by
  simp only [normalized, List.filterMap_append, List.filterMap_cons]
  cases e.normal? limit <;> rfl

/-- What is left of an edit with a window. -/
theorem exists_of_normal? {limit : α} {raw e : Edit α} {r : Span α}
    (h : raw.normal? limit = some e) (hr : e.span? = some r) :
    ∃ span, raw.span? = some span ∧ Scalar.isFinite span.start ∧ Scalar.isFinite span.stop ∧
      r = clampedSpan limit span ∧ ¬ e.IsEmptyOn r := by
  unfold normal? at h
  split at h
  · rename_i hnone
    have hraw : raw.sanitized.span? = none := by rw [span?_sanitized, hnone]
    rw [Option.some.inj h, hr] at hraw
    cases hraw
  · rename_i span hspan
    split at h
    · rename_i hfinite
      dsimp only at h
      split at h
      · cases h
      · rename_i hempty
        obtain rfl := Option.some.inj h
        rw [span?_withSpan (by rw [span?_sanitized, hspan]; rfl)] at hr
        obtain rfl := Option.some.inj hr
        refine ⟨span, hspan, hfinite.1, hfinite.2, rfl, ?_⟩
        simpa [IsEmptyOn] using hempty
    · cases h

theorem effectiveRate_effectiveRate (rate : α) :
    effectiveRate (effectiveRate rate) = effectiveRate rate := by
  by_cases h : Scalar.isFinite rate ∧ 0 < rate
  · have hrate : effectiveRate rate = rate := if_pos h
    rw [hrate, hrate]
  · have hrate : effectiveRate rate = 1 := if_neg h
    rw [hrate, effectiveRate, ite_self]

/-- A usable change of speed has a rate that can be divided by. -/
theorem effectiveRate_of_mem_normalized {limit : α} {edits : List (Edit α)} {r : Span α} {rate : α}
    (h : .speed r rate ∈ normalized limit edits) : effectiveRate rate = rate := by
  obtain ⟨raw, -, hnormal⟩ := mem_normalized.mp h
  have hkind := kind_of_normal? hnormal
  cases raw with
  | speed span raw =>
    rcases eq_of_normal? hnormal with heq | ⟨_, heq⟩ <;>
    · obtain ⟨-, rfl⟩ := Edit.speed.inj heq
      exact effectiveRate_effectiveRate raw
  | _ => cases hkind

end Kinds

section Windows

variable {α : Type} [Scalar α] {limit t : α} {raw e : Edit α} {r : Span α}

/-- An end of a window between zero and the limit, if there is one. A negative zero is not in
range. -/
def InRange (limit t : α) : Prop :=
  (t = 0 ∨ 0 < t) ∧ (0 < limit → t < limit ∨ t = limit)

/-- An end of a window, brought into range. -/
def clampedEnd (limit t : α) : α :=
  if 0 < limit then Scalar.min (Scalar.max t 0) limit else Scalar.max t 0

theorem clampedSpan_eq (limit : α) (span : Span α) :
    clampedSpan limit span = ⟨clampedEnd limit span.start, clampedEnd limit span.stop⟩ := by
  unfold clampedSpan clampedEnd
  dsimp only
  split <;> rfl

variable [LawfulScalar α]

theorem inRange_clampedEnd (limit t : α) : InRange limit (clampedEnd limit t) := by
  have hbelow : Scalar.max t 0 = 0 ∨ 0 < Scalar.max t 0 := by
    rcases Scalar.max_zero_cases t with ⟨hsame, hpos⟩ | hzero
    · exact Or.inr (hsame.symm ▸ hpos)
    · exact Or.inl hzero
  unfold clampedEnd
  split
  · rename_i hlimit
    have hself : limit ≤ limit := LawfulScalar.le_self_right (Scalar.le_of_lt hlimit)
    rcases Scalar.min_cases (Scalar.max t 0) hself with ⟨hsame, hlt⟩ | ⟨hcut, -⟩
    · rw [hsame]
      exact ⟨hbelow, fun _ => Or.inl hlt⟩
    · rw [hcut]
      exact ⟨Or.inr hlimit, fun _ => Or.inr rfl⟩
  · rename_i hlimit
    exact ⟨hbelow, fun h => absurd h hlimit⟩

theorem InRange.nonneg (h : InRange limit t) : 0 ≤ t := by
  rcases h.1 with rfl | hpos
  · exact Scalar.zero_le_zero
  · exact Scalar.le_of_lt hpos

theorem InRange.le_limit (h : InRange limit t) (hpos : 0 < limit) : t ≤ limit := by
  rcases h.2 hpos with hlt | rfl
  · exact Scalar.le_of_lt hlt
  · exact LawfulScalar.le_self_right (Scalar.le_of_lt hpos)

theorem clampedEnd_of_inRange (h : InRange limit t) : clampedEnd limit t = t := by
  obtain ⟨hzero, hlimit⟩ := h
  have hbelow : Scalar.max t 0 = t := by
    rcases hzero with rfl | hpos
    · exact (Scalar.max_zero_cases 0).elim (·.1) id
    · exact Scalar.max_zero_of_pos hpos
  unfold clampedEnd
  rw [hbelow]
  split
  · rename_i hpos
    have hself : limit ≤ limit := LawfulScalar.le_self_right (Scalar.le_of_lt hpos)
    rcases Scalar.min_cases t hself with ⟨hsame, -⟩ | ⟨hcut, hnot⟩
    · exact hsame
    · rw [hcut]
      exact ((hlimit hpos).resolve_left hnot).symm
  · rfl

theorem inRange_of_normal? (h : raw.normal? limit = some e) (hr : e.span? = some r) :
    InRange limit r.start ∧ InRange limit r.stop := by
  obtain ⟨span, -, -, -, hclamped, -⟩ := exists_of_normal? h hr
  rw [hclamped, clampedSpan_eq]
  exact ⟨inRange_clampedEnd limit span.start, inRange_clampedEnd limit span.stop⟩

end Windows

variable {limit : Rat} {edits : List (Edit Rat)} {r : Span Rat}

theorem start_nonneg_of_mem_normalized {e : Edit Rat} (h : e ∈ normalized limit edits)
    (hr : e.span? = some r) : 0 ≤ r.start := by
  obtain ⟨raw, -, hnormal⟩ := mem_normalized.mp h
  exact (inRange_of_normal? hnormal hr).1.nonneg

/-- Only a split may have no length. -/
theorem forward_of_mem_normalized {e : Edit Rat} (h : e ∈ normalized limit edits)
    (hkind : e.kind ≠ .split) (hr : e.span? = some r) : r.start < r.stop := by
  obtain ⟨raw, -, hnormal⟩ := mem_normalized.mp h
  obtain ⟨-, -, -, -, -, hlong⟩ := exists_of_normal? hnormal hr
  rw [IsEmptyOn, if_neg hkind] at hlong
  exact not_le.mp hlong

theorem delete_bounds (h : .delete r ∈ normalized limit edits) :
    0 ≤ r.start ∧ r.start < r.stop :=
  ⟨start_nonneg_of_mem_normalized h rfl, forward_of_mem_normalized h nofun rfl⟩

end Montage.Edit

/-! In exact arithmetic a rate that is not positive is the only one that falls back. -/
namespace Montage

theorem effectiveRate_pos (rate : Rat) : 0 < effectiveRate rate := by
  unfold effectiveRate
  split
  · rename_i h
    exact h.2
  · exact zero_lt_one

theorem effectiveRate_of_pos {rate : Rat} (h : 0 < rate) : effectiveRate rate = rate :=
  if_pos ⟨Rational.isFinite_eq_true rate, h⟩

end Montage

/-! Where edits cut: at every positive end of a cutting edit, rounded to hundredths. -/
namespace Montage

namespace Edit

/-- The ends of the cutting edits before they are put in order. -/
def points {α : Type} [Scalar α] (edits : List (Edit α)) : List α :=
  ((edits.flatMap ends).filter (0 < ·)).map (Scalar.roundTo · 2)

theorem mem_points {α : Type} [Scalar α] {edits : List (Edit α)} {t : α} : t ∈ points edits ↔
    ∃ e ∈ edits, ∃ x ∈ e.ends, 0 < x ∧ Scalar.roundTo x 2 = t := by
  simp only [points, List.mem_map, List.mem_filter, List.mem_flatMap, decide_eq_true_eq]
  constructor
  · rintro ⟨x, ⟨⟨e, he, hx⟩, hpos⟩, rfl⟩
    exact ⟨e, he, x, hx, hpos, rfl⟩
  · rintro ⟨e, he, x, hx, hpos, rfl⟩
    exact ⟨x, ⟨⟨e, he, hx⟩, hpos⟩, rfl⟩

theorem boundaries_eq {α : Type} [Scalar α] (edits : List (Edit α)) :
    boundaries edits = withoutRepeats ((points edits).mergeSort Scalar.precedes) := rfl

theorem boundaries_of_pairwise {α : Type} [Scalar α] {edits : List (Edit α)}
    (h : (points edits).Pairwise fun x y => Scalar.precedes x y) :
    boundaries edits = withoutRepeats (points edits) := by
  rw [boundaries_eq, List.mergeSort_of_pairwise h]

end Edit

theorem same_iff {x y : Rat} : Scalar.Same x y ↔ x = y :=
  ⟨fun h => le_antisymm h.1 h.2, fun h => ⟨le_of_eq h, le_of_eq h.symm⟩⟩

theorem mem_withoutRepeats {x : Rat} {xs : List Rat} : x ∈ withoutRepeats xs ↔ x ∈ xs := by
  fun_induction withoutRepeats xs with
  | case1 => rfl
  | case2 y => rfl
  | case3 y z rest hsame ih =>
    obtain rfl := same_iff.mp hsame
    rw [ih]
    simp
  | case4 y z rest hdiffer ih =>
    rw [List.mem_cons, ih, ← List.mem_cons]

namespace Edit

variable {edits : List (Edit Rat)} {e : Edit Rat} {r : Span Rat} {t : Rat}

theorem mem_boundaries : t ∈ boundaries edits ↔
    ∃ e ∈ edits, ∃ x ∈ e.ends, 0 < x ∧ Scalar.roundTo x 2 = t := by
  rw [boundaries_eq, mem_withoutRepeats, List.mem_mergeSort, mem_points]

end Edit

end Montage
