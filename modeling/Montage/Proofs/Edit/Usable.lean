import Montage.Number.Floating
import Montage.Proofs.Edit.Normal
import Montage.Proofs.Number.Binary64

/-! Making edits usable is a closure. What comes out is in range, what was in range is left alone,
and an edit is dropped only where nothing is left of its window. -/
namespace Montage.Edit

/-! ### What is in range -/

section Definitions

variable {α : Type} [Scalar α]

/-- Rates that can be played, shares of one, and a picture that can be drawn. -/
def HasUsableValues : Edit α → Prop
  | .speed _ rate => Scalar.isFinite rate ∧ 0 < rate
  | .volume _ level => 0 ≤ level ∧ level ≤ 1
  | .music _ level => 0 ≤ level ∧ level ≤ 1
  | .transform _ change => (Scalar.isFinite change.scale ∧ 0 < change.scale) ∧
      Scalar.isFinite change.x ∧ Scalar.isFinite change.y ∧ Scalar.isFinite change.rotate
  | _ => True

/-- The values are in range and the window is a stretch of the media. Only that of a split may have
no length. -/
structure IsUsable (limit : α) (e : Edit α) : Prop where
  values : e.HasUsableValues
  finite : ∀ r ∈ e.span?, Scalar.isFinite r.start ∧ Scalar.isFinite r.stop
  inside : ∀ r ∈ e.span?, 0 ≤ r.start ∧ r.start ≤ r.stop ∧ (0 < limit → r.stop ≤ limit)
  long : e.kind ≠ .split → ∀ r ∈ e.span?, r.start < r.stop

/-- Something is left of the window inside the media. A split is a mark, so all it must not do is
run backwards there. -/
def Survives (limit : α) (e : Edit α) : Prop :=
  ∀ r ∈ e.span?, (Scalar.isFinite r.start ∧ Scalar.isFinite r.stop) ∧
    if e.kind = .split then r.start ≤ r.stop ∨ r.start ≤ 0 ∨ 0 < limit ∧ limit ≤ r.stop
    else r.start < r.stop ∧ 0 < r.stop ∧ (0 < limit → r.start < limit)

instance (limit : α) (e : Edit α) : Decidable (e.Survives limit) :=
  inferInstanceAs (Decidable (∀ r ∈ e.span?, _ ∧ if e.kind = .split then _ else _))

/-- The second edit is the first, with everything that was in range as it was. -/
structure Tidies (limit : α) (raw e : Edit α) : Prop where
  kind : e.kind = raw.kind
  values : raw.HasUsableValues → ∀ span, e.withSpan span = raw.withSpan span
  window : ∀ r ∈ raw.span?, ∃ s ∈ e.span?,
    (InRange limit r.start → s.start = r.start) ∧ (InRange limit r.stop → s.stop = r.stop)

end Definitions

/-! ### Values -/

section Values

variable {limit level fallback : Binary64} {raw e : Edit Binary64}

theorem unitOr_bounds (hlow : 0 ≤ fallback) (hhigh : fallback ≤ 1) (level : Binary64) :
    0 ≤ unitOr fallback level ∧ unitOr fallback level ≤ 1 := by
  have hunit : (0 : Binary64) ≤ 1 := by decide +kernel
  unfold unitOr
  split
  · exact Binary64.clamp_between hunit (Binary64.reading_ne_nan (by assumption))
  · exact ⟨hlow, hhigh⟩

theorem unitOr_of_bounds (hlow : 0 ≤ level) (hhigh : level ≤ 1) :
    unitOr fallback level = level := by
  have hzero : ¬ level < 0 := fun h => Scalar.lt_irrefl _ (Scalar.lt_of_lt_of_le h hlow)
  have hone : ¬ 1 < level := fun h => Scalar.lt_irrefl _ (Scalar.lt_of_lt_of_le h hhigh)
  have hfinite : Scalar.isFinite level = true :=
    Binary64.isFinite_of_between (by decide +kernel) (by decide +kernel) hlow hhigh
  rw [unitOr, if_pos hfinite, Scalar.clamp, if_neg hzero, if_neg hone]

theorem isFinite_finiteOr (level : Binary64) : Scalar.isFinite (finiteOr 0 level) = true := by
  unfold finiteOr
  split
  · assumption
  · decide +kernel

theorem effectiveRate_bounds (rate : Binary64) :
    Scalar.isFinite (effectiveRate rate) = true ∧ 0 < effectiveRate rate := by
  unfold effectiveRate
  split
  · assumption
  · exact ⟨by decide +kernel, by decide +kernel⟩

theorem hasUsableValues_sanitized (e : Edit Binary64) : e.sanitized.HasUsableValues := by
  cases e with
  | speed span rate => exact effectiveRate_bounds rate
  | volume span level => exact unitOr_bounds (by decide +kernel) (by decide +kernel) level
  | music keywords level => exact unitOr_bounds (by decide +kernel) (by decide +kernel) level
  | transform span change =>
    exact ⟨effectiveRate_bounds change.scale, isFinite_finiteOr _, isFinite_finiteOr _,
      isFinite_finiteOr _⟩
  | _ => trivial

theorem sanitized_of_hasUsableValues (h : e.HasUsableValues) : e.sanitized = e := by
  cases e with
  | speed span rate => exact congrArg (Edit.speed span) (if_pos h)
  | volume span level => exact congrArg (Edit.volume span) (unitOr_of_bounds h.1 h.2)
  | music keywords level => exact congrArg (Edit.music keywords) (unitOr_of_bounds h.1 h.2)
  | transform span change =>
    obtain ⟨hscale, hx, hy, hrotate⟩ := h
    refine congrArg (Edit.transform span) ?_
    rw [Transform.sanitized, if_pos hscale, finiteOr, if_pos hx, finiteOr, if_pos hy, finiteOr,
      if_pos hrotate]
  | _ => rfl

theorem hasUsableValues_withSpan (e : Edit Binary64) (span : Span Binary64) :
    (e.withSpan span).HasUsableValues ↔ e.HasUsableValues := by
  cases e <;> rfl

theorem hasUsableValues_of_normal? (h : raw.normal? limit = some e) : e.HasUsableValues := by
  rcases eq_of_normal? h with rfl | ⟨span, rfl⟩
  · exact hasUsableValues_sanitized raw
  · exact (hasUsableValues_withSpan _ span).mpr (hasUsableValues_sanitized raw)

end Values

/-! ### The closure -/

section Closure

variable {limit t : Binary64} {raw e : Edit Binary64} {edits : List (Edit Binary64)}
  {r : Span Binary64}

/-- Where a finite end comes to stand: at zero if it was before, and at the limit if it was past. -/
theorem exists_position_clampedEnd (limit : Binary64) (ht : Scalar.isFinite t = true) :
    ∃ a b, t.position = some a ∧ (clampedEnd limit t).position = some b ∧
      (¬ 0 < limit → b = max a 0) ∧
      ∀ l, limit.position = some l → 0 < l → b = min (max a 0) l := by
  obtain ⟨a, ha, -⟩ := Binary64.isFinite_iff.mp ht
  have hmax := Binary64.position_max ha Binary64.position_zero
  unfold clampedEnd
  split
  · rename_i hpos
    obtain ⟨zero, l, -, hl, -⟩ := Binary64.lt_iff.mp hpos
    refine ⟨a, _, ha, Binary64.position_min hmax hl, fun h => absurd hpos h, ?_⟩
    intro l' hl' _
    obtain rfl : l' = l := by simpa [hl] using hl'.symm
    rfl
  · rename_i hnot
    refine ⟨a, _, ha, hmax, fun _ => rfl, ?_⟩
    intro l hl hpos
    exact absurd ((Binary64.lt_iff_of_position Binary64.position_zero hl).mpr hpos) hnot

theorem isFinite_clampedEnd (limit : Binary64) (ht : Scalar.isFinite t = true) :
    Scalar.isFinite (clampedEnd limit t) = true := by
  obtain ⟨a, ha, hlow, hhigh⟩ := Binary64.isFinite_iff.mp ht
  obtain ⟨a', b, ha', hb, hnot, hcut⟩ := exists_position_clampedEnd limit ht
  obtain rfl : a' = a := by simpa [ha] using ha'.symm
  have hone := Binary64.one_lt_limit
  refine Binary64.isFinite_iff.mpr ⟨b, hb, ?_⟩
  by_cases hpos : 0 < limit
  · obtain ⟨zero, l, hzero, hl, hlt⟩ := Binary64.lt_iff.mp hpos
    obtain rfl : zero = 0 := by simpa [Binary64.position_zero] using hzero.symm
    have := hcut l hl hlt
    omega
  · have := hnot hpos
    omega

/-- Something is left of a window exactly when it is not empty once its ends are in range. -/
theorem not_isEmptyOn_iff (limit : Binary64) (e : Edit Binary64)
    (hstart : Scalar.isFinite r.start = true) (hstop : Scalar.isFinite r.stop = true) :
    ¬ e.IsEmptyOn (clampedSpan limit r) ↔
      if e.kind = .split then r.start ≤ r.stop ∨ r.start ≤ 0 ∨ 0 < limit ∧ limit ≤ r.stop
      else r.start < r.stop ∧ 0 < r.stop ∧ (0 < limit → r.start < limit) := by
  obtain ⟨a, a', ha, ha', hnota, hcuta⟩ := exists_position_clampedEnd limit hstart
  obtain ⟨b, b', hb, hb', hnotb, hcutb⟩ := exists_position_clampedEnd limit hstop
  have hzero := Binary64.position_zero
  rw [clampedSpan_eq, IsEmptyOn]
  -- Positions are integers: once the limit is known to be in force or not, every comparison is one
  -- between positions.
  by_cases hpos : 0 < limit
  · obtain ⟨zero, l, hzero', hl, hlt⟩ := Binary64.lt_iff.mp hpos
    obtain rfl : zero = 0 := by simpa [hzero] using hzero'.symm
    have hcuta := hcuta l hl hlt
    have hcutb := hcutb l hl hlt
    split
    · simp only [hpos, true_and, Binary64.lt_iff_of_position hb' ha',
        Binary64.le_iff_of_position ha hb, Binary64.le_iff_of_position ha hzero,
        Binary64.le_iff_of_position hl hb]
      omega
    · simp only [hpos, true_implies, Binary64.le_iff_of_position hb' ha',
        Binary64.lt_iff_of_position ha hb, Binary64.lt_iff_of_position hzero hb,
        Binary64.lt_iff_of_position ha hl]
      omega
  · have hnota := hnota hpos
    have hnotb := hnotb hpos
    split
    · simp only [hpos, false_and, or_false, Binary64.lt_iff_of_position hb' ha',
        Binary64.le_iff_of_position ha hb, Binary64.le_iff_of_position ha hzero]
      omega
    · simp only [hpos, false_implies, and_true, Binary64.le_iff_of_position hb' ha',
        Binary64.lt_iff_of_position ha hb, Binary64.lt_iff_of_position hzero hb]
      omega

theorem isSome_normal?_iff (limit : Binary64) (e : Edit Binary64) :
    (e.normal? limit).isSome ↔ e.Survives limit := by
  cases hspan : e.span? with
  | none =>
    have hnormal : e.normal? limit = some e.sanitized := by rw [normal?, hspan]
    simp [hnormal, Survives, hspan]
  | some r =>
    rw [normal?_of_span hspan]
    by_cases hfinite : Scalar.isFinite r.start ∧ Scalar.isFinite r.stop
    · rw [if_pos hfinite]
      have hleft := not_isEmptyOn_iff limit e hfinite.1 hfinite.2
      have hsurvives : e.Survives limit ↔ ¬ e.IsEmptyOn (clampedSpan limit r) := by
        rw [hleft]
        simp [Survives, hspan, hfinite]
      rw [hsurvives]
      split <;> simp_all
    · rw [if_neg hfinite]
      constructor
      · intro h
        cases h
      · intro h
        exact absurd (h r hspan).1 hfinite

/-- What is known of the window of an edit that is left. -/
theorem window_of_normal? (h : raw.normal? limit = some e) (hr : e.span? = some r) :
    (Scalar.isFinite r.start = true ∧ Scalar.isFinite r.stop = true) ∧
      InRange limit r.start ∧ InRange limit r.stop ∧ ¬ e.IsEmptyOn r := by
  obtain ⟨span, -, hstart, hstop, hclamped, hlong⟩ := exists_of_normal? h hr
  obtain ⟨hzero, hlimit⟩ := inRange_of_normal? h hr
  refine ⟨?_, hzero, hlimit, hlong⟩
  rw [hclamped, clampedSpan_eq]
  dsimp only
  exact ⟨isFinite_clampedEnd limit hstart, isFinite_clampedEnd limit hstop⟩

theorem isUsable_of_normal? (h : raw.normal? limit = some e) : e.IsUsable limit := by
  have hforward : ∀ r ∈ e.span?, r.start ≤ r.stop ∧ (e.kind ≠ .split → r.start < r.stop) := by
    intro r hr
    obtain ⟨⟨hstart, hstop⟩, -, -, hlong⟩ := window_of_normal? h hr
    have hstart := Binary64.reading_ne_nan hstart
    have hstop := Binary64.reading_ne_nan hstop
    unfold IsEmptyOn at hlong
    split at hlong
    · rename_i hsplit
      exact ⟨Binary64.le_of_not_lt hstop hstart hlong, fun h => absurd hsplit h⟩
    · have hlt := Binary64.lt_of_not_le hstop hstart hlong
      exact ⟨Scalar.le_of_lt hlt, fun _ => hlt⟩
  refine ⟨hasUsableValues_of_normal? h, ?_, ?_, ?_⟩
  · intro r hr
    obtain ⟨hfinite, -⟩ := window_of_normal? h hr
    exact hfinite
  · intro r hr
    obtain ⟨-, hstart, hstop, -⟩ := window_of_normal? h hr
    exact ⟨hstart.nonneg, (hforward r hr).1, hstop.le_limit⟩
  · exact fun hkind r hr => (hforward r hr).2 hkind

theorem tidies_of_normal? (h : raw.normal? limit = some e) : Tidies limit raw e := by
  refine ⟨kind_of_normal? h, ?_, ?_⟩
  · intro hvalues span
    have hraw := sanitized_of_hasUsableValues hvalues
    rcases eq_of_normal? h with rfl | ⟨r, rfl⟩
    · rw [hraw]
    · rw [hraw, withSpan_withSpan]
  · intro r hr
    rw [normal?_of_span hr] at h
    split at h
    · split at h
      · cases h
      · obtain rfl := Option.some.inj h
        have hspan : (raw.sanitized.withSpan (clampedSpan limit r)).span? =
            some (clampedSpan limit r) := by
          refine span?_withSpan ?_
          rw [span?_sanitized, hr]
          rfl
        rw [clampedSpan_eq] at hspan ⊢
        refine ⟨_, hspan, ?_, ?_⟩ <;> dsimp only <;> exact clampedEnd_of_inRange
    · cases h

/-- What is in range already stays as it is. -/
theorem normal?_normal? (h : raw.normal? limit = some e) : e.normal? limit = some e := by
  have hvalues := sanitized_of_hasUsableValues (hasUsableValues_of_normal? h)
  cases hspan : e.span? with
  | none => rw [normal?, hspan, hvalues]
  | some r =>
    obtain ⟨hfinite, hstart, hstop, hlong⟩ := window_of_normal? h hspan
    have hclamped : clampedSpan limit r = r := by
      rw [clampedSpan_eq, clampedEnd_of_inRange hstart, clampedEnd_of_inRange hstop]
    rw [normal?_of_span hspan, if_pos hfinite, hclamped, if_neg hlong, hvalues, withSpan_self hspan]

/-- The edits that are left, in the order they came, each as it was where it was in range. -/
theorem forall₂_normalized (limit : Binary64) (edits : List (Edit Binary64)) :
    List.Forall₂ (Tidies limit) (edits.filter (·.Survives limit)) (normalized limit edits) := by
  induction edits with
  | nil => exact List.Forall₂.nil
  | cons raw edits ih =>
    have hleft := isSome_normal?_iff limit raw
    cases hraw : raw.normal? limit with
    | none =>
      have hgone : ¬ raw.Survives limit := by simpa [hraw] using hleft
      rw [normalized, List.filterMap_cons_none hraw, List.filter_cons_of_neg (by simpa using hgone)]
      exact ih
    | some e =>
      have hkept : raw.Survives limit := by simpa [hraw] using hleft
      rw [normalized, List.filterMap_cons_some hraw, List.filter_cons_of_pos (by simpa using hkept)]
      exact List.Forall₂.cons (tidies_of_normal? hraw) ih

theorem isUsable_of_mem_normalized (h : e ∈ normalized limit edits) : e.IsUsable limit := by
  obtain ⟨raw, -, hnormal⟩ := mem_normalized.mp h
  exact isUsable_of_normal? hnormal

theorem normalized_normalized (limit : Binary64) (edits : List (Edit Binary64)) :
    normalized limit (normalized limit edits) = normalized limit edits := by
  induction edits with
  | nil => rfl
  | cons raw edits ih =>
    unfold normalized at ih ⊢
    cases hraw : raw.normal? limit with
    | none => rw [List.filterMap_cons_none hraw, ih]
    | some e =>
      rw [List.filterMap_cons_some hraw, List.filterMap_cons_some (normal?_normal? hraw), ih]

end Closure

/-! ### Edits that come to nothing -/

section Padding

variable {α : Type} [Scalar α] {limit : α} {edits others : List (Edit α)}

/-- The second list is the first with edits put in, anywhere, of which nothing is left. -/
inductive Padded (limit : α) : List (Edit α) → List (Edit α) → Prop
  | nil : Padded limit [] []
  | keep {edits others : List (Edit α)} (e : Edit α) :
      Padded limit edits others → Padded limit (e :: edits) (e :: others)
  | insert {edits others : List (Edit α)} {e : Edit α} (hgone : e.normal? limit = none) :
      Padded limit edits others → Padded limit edits (e :: others)

theorem normalized_of_padded (h : Padded limit edits others) :
    normalized limit others = normalized limit edits := by
  induction h with
  | nil => rfl
  | keep e _ ih =>
    unfold normalized at ih ⊢
    rw [List.filterMap_cons, List.filterMap_cons, ih]
  | insert hgone _ ih =>
    unfold normalized at ih ⊢
    rw [List.filterMap_cons_none hgone, ih]

end Padding

end Montage.Edit
