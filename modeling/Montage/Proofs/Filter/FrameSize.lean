import Montage.Proofs.Edit.Usable
import Montage.Proofs.Filter.Frame
import Montage.Proofs.Filter.Picture

/-! A change of picture keeps the frame, unless it zooms a frame with an odd side by less than a
pixel or shrinks a side to nothing. -/
namespace Montage

namespace Reading

variable {num den : Nat} (negative : Bool)

theorem roundDiv_pow10_self (tie : Decimal.Tie) (hden : 0 < den) :
    Decimal.roundDiv tie (den * pow10 4) den = 10 ^ 4 := by
  rw [Nat.mul_comm]
  exact Decimal.roundDiv_mul_self tie hden

theorem units_ge_of_le (hden : 0 < den) (h : den ≤ num) :
    10 ^ 4 ≤ (finite negative num den).units 4 := by
  rw [units, ← roundDiv_pow10_self .toEven hden]
  exact Decimal.roundDiv_mono _ (Nat.mul_le_mul_right _ h)

theorem units_le_of_le (hden : 0 < den) (h : num ≤ den) :
    (finite negative num den).units 4 ≤ 10 ^ 4 := by
  rw [units, ← roundDiv_pow10_self .toEven hden]
  exact Decimal.roundDiv_mono _ (Nat.mul_le_mul_right _ h)

end Reading

namespace Binary64

variable {x : Binary64}

theorem position_one : (1 : Binary64).position = some (one : Int) := by
  decide +kernel

theorem reading_of_pos (hfinite : Scalar.isFinite x = true) (h : 0 < x) :
    ∃ n : Nat, Scalar.reading x = .finite false n one ∧ x.position = some (n : Int) := by
  obtain ⟨a, b, ha, hb, hab⟩ := lt_iff.mp h
  obtain rfl : a = 0 := by simpa [position_zero] using ha.symm
  cases x with
  | nan s => cases hb
  | infinite s => cases hfinite
  | finite s n hn =>
    cases s with
    | false => exact ⟨n, rfl, rfl⟩
    | true =>
      have hneg : -(n : Int) = b := Option.some.inj hb
      omega

theorem isFinite_of_le_one (hpos : 0 < x) (h : x ≤ 1) : Scalar.isFinite x = true :=
  isFinite_of_between (by decide +kernel) (by decide +kernel) (Scalar.le_of_lt hpos) h

theorem clamp_bounds (h : Scalar.reading x ≠ .nan) :
    0 < Scalar.clamp 0.01 1 x ∧ Scalar.clamp 0.01 1 x ≤ 1 := by
  have hleast : (0 : Binary64) < 0.01 := by decide +kernel
  obtain ⟨hlow, hhigh⟩ := clamp_between (show (0.01 : Binary64) ≤ 1 by decide +kernel) h
  exact ⟨Scalar.lt_of_lt_of_le hleast hlow, hhigh⟩

theorem units_of_one_lt (hfinite : Scalar.isFinite x = true) (h : 1 < x) :
    ∃ n, Scalar.reading x = .finite false n one ∧ 10 ^ 4 ≤ (Scalar.reading x).units 4 := by
  have hpos : 0 < x := Scalar.lt_of_le_of_lt (by decide +kernel) h
  obtain ⟨n, hreading, hposition⟩ := reading_of_pos hfinite hpos
  obtain ⟨a, b, ha, hb, hab⟩ := lt_iff.mp h
  rw [position_one] at ha
  rw [hposition] at hb
  cases ha
  cases hb
  refine ⟨n, hreading, ?_⟩
  rw [hreading]
  exact Reading.units_ge_of_le false one_pos (Int.ofNat_le.mp hab.le)

theorem units_of_le_one (hpos : 0 < x) (h : x ≤ 1) :
    ∃ n, Scalar.reading x = .finite false n one ∧ (Scalar.reading x).units 4 ≤ 10 ^ 4 := by
  obtain ⟨n, hreading, hposition⟩ := reading_of_pos (isFinite_of_le_one hpos h) hpos
  obtain ⟨a, b, ha, hb, hab⟩ := le_iff.mp h
  rw [hposition] at ha
  rw [position_one] at hb
  cases ha
  cases hb
  refine ⟨n, hreading, ?_⟩
  rw [hreading]
  exact Reading.units_le_of_le false one_pos (Int.ofNat_le.mp hab)

end Binary64

/-- All numbers of the crop are finite. -/
def CropRect.IsFinite {α : Type} [Scalar α] (crop : CropRect α) : Prop :=
  Scalar.isFinite crop.x ∧ Scalar.isFinite crop.y ∧ Scalar.isFinite crop.width ∧
    Scalar.isFinite crop.height

instance {α : Type} [Scalar α] (crop : CropRect α) : Decidable crop.IsFinite :=
  inferInstanceAs (Decidable (_ ∧ _))

theorem CropRect.IsFinite.hasSize {α : Type} [Scalar α] {crop : CropRect α} (h : crop.IsFinite) :
    crop.HasSize := by
  obtain ⟨-, -, hwidth, hheight⟩ := h
  unfold Scalar.isFinite at hwidth hheight
  constructor
  · intro hnan
    rw [hnan] at hwidth
    cases hwidth
  · intro hnan
    rw [hnan] at hheight
    cases hheight

namespace Filter

variable {units side : Nat}

theorem le_evenSide_iff (hunits : 10 ^ 4 ≤ units) :
    side ≤ evenSide units side ↔ Even side ∨ (side : Rat) + 1 ≤ side * (units / 10 ^ 4) := by
  have hshown : (side : Rat) + 1 ≤ side * (units / 10 ^ 4) ↔
      (side + 1) * 10 ^ 4 ≤ side * units := by
    rw [← mul_div_assoc, le_div_iff₀ (by norm_num)]
    exact_mod_cast Iff.rfl
  rw [hshown, evenSide]
  rcases Nat.even_or_odd' side with ⟨k, rfl | rfl⟩
  · have hk : k ≤ 2 * k * units / 20000 := by
      rw [Nat.le_div_iff_mul_le (by norm_num)]
      calc k * 20000 = 2 * k * 10 ^ 4 := by ring
        _ ≤ 2 * k * units := Nat.mul_le_mul_left _ hunits
    simp only [even_two_mul, true_or, iff_true]
    omega
  · have hodd : ¬ Even (2 * k + 1) := by simp
    have hdiv : k + 1 ≤ (2 * k + 1) * units / 20000 ↔ (k + 1) * 20000 ≤ (2 * k + 1) * units :=
      Nat.le_div_iff_mul_le (by norm_num)
    simp only [hodd, false_or]
    omega

theorem evenSide_pos_iff : 0 < evenSide units side ↔ 2 ≤ (side : Rat) * (units / 10 ^ 4) := by
  have hshown : 2 ≤ (side : Rat) * (units / 10 ^ 4) ↔ 2 * 10 ^ 4 ≤ side * units := by
    rw [← mul_div_assoc, le_div_iff₀ (by norm_num)]
    exact_mod_cast Iff.rfl
  have hdiv : 1 ≤ side * units / 20000 ↔ 1 * 20000 ≤ side * units :=
    Nat.le_div_iff_mul_le (by norm_num)
  rw [hshown, evenSide]
  omega

theorem evenSide_le (hunits : units ≤ 10 ^ 4) : evenSide units side ≤ side := by
  have hle : side * units ≤ side * 10 ^ 4 := Nat.mul_le_mul_left _ hunits
  rw [evenSide]
  omega

end Filter

namespace Transform

variable {t : Transform Binary64} {f : Frame}

/-- The scale as its filter shows it. -/
def shownScale {α : Type} [Scalar α] (t : Transform α) : Rat :=
  (Scalar.reading t.scale).units 4 / 10 ^ 4

/-- Zoomed in, every odd side gains a whole pixel; shrunk, two pixels are left of every side. -/
def KeepsFrame {α : Type} [Scalar α] (t : Transform α) (f : Frame) : Prop :=
  ∀ side ∈ [f.width, f.height],
    (1 < t.scale → Even side ∨ (side : Rat) + 1 ≤ side * t.shownScale) ∧
      (t.scale < 1 → 2 ≤ side * t.shownScale)

instance {α : Type} [Scalar α] (t : Transform α) (f : Frame) : Decidable (t.KeepsFrame f) :=
  inferInstanceAs (Decidable (∀ side ∈ [f.width, f.height],
    (1 < t.scale → Even side ∨ (side : Rat) + 1 ≤ side * t.shownScale) ∧
      (t.scale < 1 → 2 ≤ side * t.shownScale)))

theorem keepsFrame_iff {α : Type} [Scalar α] {t : Transform α} {f : Frame} :
    t.KeepsFrame f ↔
      ((1 < t.scale → Even f.width ∨ (f.width : Rat) + 1 ≤ f.width * t.shownScale) ∧
        (t.scale < 1 → 2 ≤ (f.width : Rat) * t.shownScale)) ∧
      (1 < t.scale → Even f.height ∨ (f.height : Rat) + 1 ≤ f.height * t.shownScale) ∧
        (t.scale < 1 → 2 ≤ (f.height : Rat) * t.shownScale) := by
  simp [KeepsFrame]

/-- Zoomed in, the middle can be cut out of the picture when no side has become shorter. -/
theorem afterAll?_zoomIn (hfinite : Scalar.isFinite t.scale = true) (h : 1 < t.scale)
    (hwidth : 2 ≤ f.width) (hheight : 2 ≤ f.height) :
    f.afterAll? ((t.zoomFilters f.width f.height).map Filter.print) =
      if t.KeepsFrame f then some f else none := by
  obtain ⟨n, hreading, hunits⟩ := Binary64.units_of_one_lt hfinite h
  have hnot : ¬ t.scale < 1 := fun hlt =>
    Scalar.lt_irrefl _ (Scalar.lt_of_lt_of_le h (Scalar.le_of_lt hlt))
  generalize hshown : (Scalar.reading t.scale).units 4 = units at hunits
  have hpos (side : Nat) (hside : 2 ≤ side) : 0 < Filter.evenSide units side := by
    have hdiv : 1 ≤ side * units / 20000 := by
      rw [Nat.le_div_iff_mul_le (by norm_num)]
      calc 1 * 20000 = 2 * 10 ^ 4 := rfl
        _ ≤ side * units := Nat.mul_le_mul hside hunits
    rw [Filter.evenSide]
    omega
  have hscaled := Filter.after?_scaleBy f hreading hshown
  rw [if_pos ⟨hpos _ hwidth, hpos _ hheight⟩] at hscaled
  have hkeeps : t.KeepsFrame f ↔
      f.width ≤ Filter.evenSide units f.width ∧ f.height ≤ Filter.evenSide units f.height := by
    rw [keepsFrame_iff, shownScale, hshown, Filter.le_evenSide_iff hunits,
      Filter.le_evenSide_iff hunits]
    simp [h, hnot]
  rw [zoomFilters, if_pos h]
  simp only [List.map_cons, List.map_nil, Frame.afterAll?_cons, Frame.afterAll?_nil, hscaled,
    Option.bind_some, Filter.after?_cropMiddle, Filter.evenFrame, hkeeps]
  split <;> rfl

/-- Shrunk, the picture can be put into the frame when something is left of it. -/
theorem afterAll?_zoomOut (hpos : 0 < t.scale) (h : t.scale < 1) :
    f.afterAll? ((t.zoomFilters f.width f.height).map Filter.print) =
      if t.KeepsFrame f then some f else none := by
  obtain ⟨n, hreading, hunits⟩ := Binary64.units_of_le_one hpos (Scalar.le_of_lt h)
  have hnot : ¬ 1 < t.scale := fun hlt =>
    Scalar.lt_irrefl _ (Scalar.lt_of_lt_of_le h (Scalar.le_of_lt hlt))
  generalize hshown : (Scalar.reading t.scale).units 4 = units at hunits
  have hscaled := Filter.after?_scaleBy f hreading hshown
  have hkeeps : t.KeepsFrame f ↔
      0 < Filter.evenSide units f.width ∧ 0 < Filter.evenSide units f.height := by
    rw [keepsFrame_iff, shownScale, hshown, Filter.evenSide_pos_iff, Filter.evenSide_pos_iff]
    simp [h, hnot]
  have hinside : (Filter.evenFrame units f).width ≤ f.width ∧
      (Filter.evenFrame units f).height ≤ f.height :=
    ⟨Filter.evenSide_le hunits, Filter.evenSide_le hunits⟩
  rw [zoomFilters, if_neg hnot, if_pos h]
  simp only [List.map_cons, List.map_nil, Frame.afterAll?_cons, Frame.afterAll?_nil, hscaled,
    hkeeps]
  split
  · rw [Option.bind_some, Filter.after?_padTo, if_pos hinside]
    rfl
  · rfl

theorem afterAll?_zoomFilters (hfinite : Scalar.isFinite t.scale = true) (hpos : 0 < t.scale)
    (hwidth : 2 ≤ f.width) (hheight : 2 ≤ f.height) :
    f.afterAll? ((t.zoomFilters f.width f.height).map Filter.print) =
      if t.KeepsFrame f then some f else none := by
  by_cases hin : 1 < t.scale
  · exact afterAll?_zoomIn hfinite hin hwidth hheight
  · by_cases hout : t.scale < 1
    · exact afterAll?_zoomOut hpos hout
    · have hkeeps : t.KeepsFrame f := fun side _ => ⟨fun h => absurd h hin, fun h => absurd h hout⟩
      rw [zoomFilters, if_neg hin, if_neg hout, if_pos hkeeps]
      rfl

theorem afterAll?_turnFilters (hfinite : Scalar.isFinite t.rotate = true) :
    f.afterAll? (t.turnFilters.map Filter.print) = some f := by
  have hacross := (Filter.after?_flip (α := Binary64) f).1
  have hover := (Filter.after?_flip (α := Binary64) f).2
  have hrotate := Filter.after?_rotate f hfinite
  have hnone : f.afterAll? [] = some f := rfl
  unfold turnFilters
  split <;> split <;> split <;>
    simp [Frame.afterAll?_cons, hacross, hover, hrotate, hnone]

/-- A cropped picture is brought back to the size of the frame. -/
theorem afterAll?_cropFilters {crop window : CropRect Binary64} (h : crop.HasSize)
    (hwindow : cropWindow? crop = some window) (hwidth : 0 < f.width) (hheight : 0 < f.height) :
    f.afterAll? ([Filter.cropShare window, .scaleTo f.width f.height].map Filter.print) =
      some f := by
  have hsides : window.width = Scalar.clamp 0.01 1 crop.width ∧
      window.height = Scalar.clamp 0.01 1 crop.height := by
    rw [cropWindow?] at hwindow
    split at hwindow
    · cases hwindow
      exact ⟨rfl, rfl⟩
    · cases hwindow
  obtain ⟨hw, hwle⟩ := Binary64.clamp_bounds h.1
  obtain ⟨hh, hhle⟩ := Binary64.clamp_bounds h.2
  rw [← hsides.1] at hw hwle
  rw [← hsides.2] at hh hhle
  obtain ⟨w, hreadw, hunitsw⟩ := Binary64.units_of_le_one hw hwle
  obtain ⟨h, hreadh, hunitsh⟩ := Binary64.units_of_le_one hh hhle
  obtain ⟨g, hcropped⟩ := Filter.after?_cropShare f hreadw hreadh hunitsw hunitsh
  simp only [List.map_cons, List.map_nil, Frame.afterAll?_cons, Frame.afterAll?_nil, hcropped,
    Option.bind_some, Filter.after?_scaleTo g hwidth hheight]

theorem finite_sanitized (change : Transform Binary64) :
    Scalar.isFinite change.sanitized.scale = true ∧ 0 < change.sanitized.scale ∧
      Scalar.isFinite change.sanitized.rotate = true := by
  obtain ⟨hfinite, hpos⟩ := Edit.effectiveRate_bounds change.scale
  exact ⟨hfinite, hpos, Edit.isFinite_finiteOr change.rotate⟩

theorem keepsFrame_of_same (h : Scalar.Same t.scale 1) : t.KeepsFrame f :=
  fun _ _ => ⟨fun hin => absurd h.1 (LawfulScalar.lt_iff_le_not_ge.mp hin).2,
    fun hout => absurd h.2 (LawfulScalar.lt_iff_le_not_ge.mp hout).2⟩

/-- The filters of a change of picture that has been brought into range bring a frame back to its
size exactly when the zoom allows it. -/
theorem afterAll?_filters_iff (change : Transform Binary64) (f : Frame)
    (hcrop : ∀ crop ∈ change.crop, crop.IsFinite) (hwidth : 2 ≤ f.width) (hheight : 2 ≤ f.height) :
    ∃ filters, change.sanitized.filters? f.width f.height = some filters ∧
      (f.afterAll? (filters.map Filter.print) = some f ↔ change.sanitized.KeepsFrame f) := by
  obtain ⟨hfinite, hpos, hrotate⟩ := finite_sanitized change
  have hcrop : ∀ crop ∈ change.sanitized.crop, crop.IsFinite := hcrop
  generalize change.sanitized = t at hfinite hpos hrotate hcrop
  have hzoom := afterAll?_zoomFilters hfinite hpos hwidth hheight
  have hturn := afterAll?_turnFilters (f := f) hrotate
  have hrest : f.afterAll? ((t.zoomFilters f.width f.height ++ t.turnFilters).map Filter.print) =
      if t.KeepsFrame f then some f else none := by
    rw [List.map_append, Frame.afterAll?_append, hzoom]
    split
    · exact hturn
    · rfl
  rw [filters?]
  split
  · rename_i hidentity
    exact ⟨[], rfl, iff_of_true rfl (keepsFrame_of_same hidentity.1)⟩
  · dsimp only
    generalize t.zoomFilters f.width f.height ++ t.turnFilters = rest at hrest
    cases hcropped : t.crop with
    | none =>
      refine ⟨rest, rfl, ?_⟩
      rw [hrest]
      simp
    | some crop =>
      have hsize := (hcrop crop hcropped).hasSize
      obtain ⟨window, hwindow⟩ := Option.isSome_iff_exists.mp (cropWindow?_isSome hsize)
      have hcut := afterAll?_cropFilters (f := f) hsize hwindow (by omega) (by omega)
      refine ⟨[.cropShare window, .scaleTo f.width f.height] ++ rest, ?_, ?_⟩
      · simp [hwindow]
      · rw [List.map_append, Frame.afterAll?_append, hcut, Option.bind_some, hrest]
        simp

/-- A cropped full frame at half its size. -/
theorem keepsFrame_of_half :
    let change : Transform Binary64 := ⟨0.5, 0, 0, 12, true, false, some ⟨0.25, 0.25, 0.5, 0.5⟩⟩
    let f : Frame := ⟨1920, 1080⟩
    (∀ crop ∈ change.crop, crop.IsFinite) ∧ 2 ≤ f.width ∧ 2 ≤ f.height ∧
      ∃ filters, change.sanitized.filters? f.width f.height = some filters ∧
        f.afterAll? (filters.map Filter.print) = some f := by
  intro change f
  have hcrop : ∀ crop ∈ change.crop, crop.IsFinite := by decide +kernel
  have hwidth : 2 ≤ f.width := by decide
  have hheight : 2 ≤ f.height := by decide
  obtain ⟨filters, hfilters, hkeeps⟩ := afterAll?_filters_iff change f hcrop hwidth hheight
  exact ⟨hcrop, hwidth, hheight, filters, hfilters, hkeeps.mpr (by decide +kernel)⟩

/-- Zoomed in by a thousandth, a frame of odd width becomes too narrow for its middle. -/
theorem exists_zoom_of_odd_width :
    ∃ (change : Transform Binary64) (f : Frame) (filters : List (Filter Binary64)),
      change.sanitized = change ∧ change.crop = none ∧ 2 ≤ f.width ∧ 2 ≤ f.height ∧
        change.filters? f.width f.height = some filters ∧
          f.afterAll? (filters.map Filter.print) ≠ some f := by
  refine ⟨⟨1.001, 0, 0, 0, false, false, none⟩, ⟨641, 480⟩,
    [.scaleBy 1.001, .cropMiddle 641 480 0 0], ?_⟩
  decide +kernel

end Transform

end Montage
