import Montage.Proofs.Clip.Attributes
import Montage.Proofs.Plan.Build
import Montage.Proofs.Timeline.Pieces

/-! Planning fails for a crop that has no size, and for nothing else. The crop of an edit reaches
the plan as it was given, whatever is done about the other values of the edit. -/
namespace Montage

/-! ### From an edit to a clip -/

section Edits

variable {α : Type} [Scalar α]

/-- No crop that the edit makes has a side that is not a number. -/
def Edit.HasCropSize : Edit α → Prop
  | .transform _ change => ∀ crop ∈ change.crop, crop.HasSize
  | _ => True

instance : DecidablePred (Edit.HasCropSize : Edit α → Prop)
  | .transform _ change => inferInstanceAs (Decidable (∀ crop ∈ change.crop, crop.HasSize))
  | .split _ | .speed .. | .delete _ | .text .. | .fade .. | .volume .. | .music .. =>
    .isTrue trivial

namespace Edit

variable {limit : α} {raw e : Edit α}

theorem hasCropSize_sanitized (e : Edit α) : e.sanitized.HasCropSize ↔ e.HasCropSize := by
  cases e <;> rfl

theorem hasCropSize_withSpan (e : Edit α) (span : Span α) :
    (e.withSpan span).HasCropSize ↔ e.HasCropSize := by
  cases e <;> rfl

theorem hasCropSize_of_normal? (h : raw.normal? limit = some e) :
    e.HasCropSize ↔ raw.HasCropSize := by
  rcases eq_of_normal? h with rfl | ⟨span, rfl⟩
  · exact hasCropSize_sanitized raw
  · rw [hasCropSize_withSpan, hasCropSize_sanitized]

end Edit

/-- The crops of clips are those of edits. -/
theorem Timeline.hasCropSize_of_mem_clips {picks : List (Pick α)} {edits : List (Edit α)}
    {duration : α} {c : Clip α} (h : ∀ e ∈ edits, e.HasCropSize)
    (hc : c ∈ (compile picks edits duration).clips) : c.HasCropSize := by
  obtain ⟨p, -, -, hattached⟩ := exists_piece hc
  have htransform : c.transform = Clip.transformOf (usable picks edits duration) p :=
    (Clip.attributes_of_unplaced hattached).2.2
  intro change hchange
  rw [htransform, Clip.transformOf] at hchange
  split at hchange
  · rename_i span found hfound
    split at hchange
    · cases hchange
    · obtain rfl : found = change := Option.some.inj hchange
      obtain ⟨-, before, after, hsplit, -⟩ := Clip.covering?_eq_some_iff.mp hfound
      have hmem : .transform span found ∈ usable picks edits duration :=
        hsplit ▸ List.mem_append_right before List.mem_cons_self
      obtain ⟨raw, hraw, hnormal⟩ := Edit.mem_normalized.mp hmem
      exact (Edit.hasCropSize_of_normal? hnormal).mpr (h raw hraw)
  · cases hchange

end Edits

/-! ### From a clip to its filters -/

namespace Binary64

theorem not_lt_of_position_none {x y : Binary64} (h : x.position = none ∨ y.position = none) :
    ¬ x < y := by
  intro hlt
  obtain ⟨a, b, hx, hy, -⟩ := lt_iff.mp hlt
  rcases h with h | h
  · rw [hx] at h
    cases h
  · rw [hy] at h
    cases h

/-- A side that is not a number leaves no room that could be compared with zero. -/
theorem not_nonneg_one_sub_clamp (s : Bool) : ¬ 0 ≤ 1 - Scalar.clamp 0.01 1 (nan s) := by
  have hclamp : Scalar.clamp 0.01 1 (nan s) = nan s := by
    rw [Scalar.clamp, if_neg (not_lt_of_position_none (Or.inl rfl)),
      if_neg (not_lt_of_position_none (Or.inr rfl))]
  intro hle
  rw [hclamp] at hle
  obtain ⟨zero, a, -, ha, -⟩ := le_iff.mp hle
  rw [show (1 - nan s : Binary64) = sub 1 (nan s) from rfl, position_sub] at ha
  obtain ⟨b, c, -, hc, -⟩ := position_of_add ha
  cases hc

theorem exists_eq_nan {x : Binary64} (h : Scalar.reading x = .nan) : ∃ s, x = nan s := by
  cases x with
  | nan s => exact ⟨s, rfl⟩
  | infinite s => cases h
  | finite s n hn => cases h

end Binary64

theorem Transform.cropWindow?_isSome_iff (crop : CropRect Binary64) :
    (cropWindow? crop).isSome ↔ crop.HasSize := by
  refine ⟨fun h => ?_, cropWindow?_isSome⟩
  rw [cropWindow?] at h
  split at h
  · rename_i hinside
    refine ⟨fun hwidth => ?_, fun hheight => ?_⟩
    · obtain ⟨s, hnan⟩ := Binary64.exists_eq_nan hwidth
      rw [hnan] at hinside
      exact Binary64.not_nonneg_one_sub_clamp s hinside.1
    · obtain ⟨s, hnan⟩ := Binary64.exists_eq_nan hheight
      rw [hnan] at hinside
      exact Binary64.not_nonneg_one_sub_clamp s hinside.2
  · cases h

/-- A change of picture with a crop changes something. -/
theorem Transform.crop_eq_none_of_isIdentity {α : Type} [Scalar α] {change : Transform α}
    (h : change.IsIdentity) : change.crop = none := by
  obtain ⟨-, -, -, -, -, -, hcrop⟩ := h
  exact Option.isNone_iff_eq_none.mp hcrop

theorem Transform.filters?_isSome_iff (change : Transform Binary64) (width height : Nat) :
    (change.filters? width height).isSome ↔ ∀ crop ∈ change.crop, crop.HasSize := by
  refine ⟨fun h crop hcrop => ?_, filters?_isSome⟩
  have hcrop : change.crop = some crop := hcrop
  have hchanges : ¬ change.IsIdentity := by
    intro hidentity
    rw [crop_eq_none_of_isIdentity hidentity] at hcrop
    cases hcrop
  rw [filters?, if_neg hchanges, hcrop] at h
  rw [← cropWindow?_isSome_iff, ← Option.isSome_map]
  exact h

theorem Clip.pictureFilters?_isSome_iff (options : PlanOptions) (c : Clip Binary64) :
    (pictureFilters? options c).isSome ↔ c.HasCropSize := by
  refine ⟨fun h change hchange => ?_, c.pictureFilters?_isSome options⟩
  have hchange : c.transform = some change := hchange
  rw [pictureFilters?, hchange] at h
  exact (Transform.filters?_isSome_iff change options.width options.height).mp h

namespace Plan

theorem mapM_eq_none {β γ : Type} {f : β → Option γ} {xs : List β} {x : β} (hx : x ∈ xs)
    (h : f x = none) : xs.mapM f = none := by
  induction xs with
  | nil => cases hx
  | cons head rest ih =>
    rw [List.mapM_cons]
    rcases List.mem_cons.mp hx with rfl | hx
    · rw [h]
      rfl
    · rw [ih hx]
      cases f head <;> rfl

theorem graph_eq_error {α : Type} [Scalar α] {t : Timeline α} {c : Clip α} {options : PlanOptions}
    (hc : c ∈ t.clips) (h : Clip.pictureFilters? options c = none) :
    graph t options = .error .undefinedCrop := by
  obtain ⟨index, hindex⟩ := List.getElem?_of_mem hc
  have hpair : (c, index) ∈ t.clips.zipIdx := List.mk_mem_zipIdx_iff_getElem?.mpr hindex
  have hstages : stages? t options = none := by
    rw [stages?, clipStages?, mapM_eq_none hpair]
    · rfl
    · dsimp only
      rw [h]
      rfl
  have hclips : t.clips.isEmpty ≠ true := by
    rw [Ne, List.isEmpty_iff]
    exact List.ne_nil_of_mem hc
  rw [graph, if_neg hclips, hstages]

/-- A graph that is made has the stages of all clips. -/
theorem eq_of_graph {α : Type} [Scalar α] {t : Timeline α} {options : PlanOptions}
    {g : Graph (Filter α)} (h : graph t options = .ok g) :
    g = .ofStages (stages options t) := by
  have hfilters : ∀ c ∈ t.clips, (Clip.pictureFilters? options c).isSome := by
    intro c hc
    by_contra hnone
    rw [graph_eq_error hc (Option.not_isSome_iff_eq_none.mp hnone)] at h
    cases h
  have hclips : t.clips ≠ [] := by
    intro hnil
    rw [graph, if_pos (List.isEmpty_iff.mpr hnil)] at h
    cases h
  rw [graph_eq hclips hfilters] at h
  exact (Except.ok.inj h).symm

/-- A crop without a size leaves its timeline without a plan. -/
theorem build_of_not_hasCropSize {t : Timeline Binary64} {c : Clip Binary64} (hc : c ∈ t.clips)
    (h : ¬ c.HasCropSize) (options : PlanOptions) : build t options = .error .undefinedCrop := by
  have hfilters : Clip.pictureFilters? options c = none := by
    rwa [← Clip.pictureFilters?_isSome_iff options, Option.not_isSome_iff_eq_none] at h
  rw [build, graph_eq_error hc hfilters]
  rfl

/-- A plan, or nothing to render. -/
def IsPlanned (t : Timeline Binary64) (options : PlanOptions) : Prop :=
  (∃ plan, build t options = .ok plan) ∨ build t options = .error .nothingToRender

theorem not_isPlanned_of_undefined {t : Timeline Binary64} {options : PlanOptions}
    (h : build t options = .error .undefinedCrop) : ¬ IsPlanned t options := by
  rintro (⟨plan, hplan⟩ | hnothing)
  · rw [h] at hplan
    cases hplan
  · rw [h] at hnothing
    cases hnothing

theorem isPlanned_of_hasCropSize {t : Timeline Binary64} (options : PlanOptions)
    (h : ∀ c ∈ t.clips, c.HasCropSize) : IsPlanned t options := by
  by_cases hclips : t.clips = []
  · have hgraph : graph t options = .error .nothingToRender := if_pos (by simp [hclips])
    rw [IsPlanned, build, hgraph]
    exact Or.inr rfl
  · exact Or.inl ⟨_, build_eq hclips fun c hc => c.pictureFilters?_isSome options (h c hc)⟩

/-- Whatever the edits hold, planning their timeline fails for a crop without a size only. -/
theorem isPlanned_compile_iff (picks : List (Pick Binary64)) (edits : List (Edit Binary64))
    (duration : Binary64) (options : PlanOptions) :
    let t := Timeline.compile picks edits duration
    (IsPlanned t options ↔ ∀ c ∈ t.clips, c.HasCropSize) ∧
      (build t options = .error .undefinedCrop ↔ ∃ c ∈ t.clips, ¬ c.HasCropSize) ∧
      ((∀ e ∈ edits, e.HasCropSize) → IsPlanned t options) := by
  intro t
  have hplanned : IsPlanned t options → ∀ c ∈ t.clips, c.HasCropSize := by
    intro hplanned c hc
    by_contra h
    exact not_isPlanned_of_undefined (build_of_not_hasCropSize hc h options) hplanned
  refine ⟨⟨hplanned, isPlanned_of_hasCropSize options⟩, ⟨fun hundefined => ?_, ?_⟩,
    fun hedits => ?_⟩
  · by_contra hnone
    have hsizes : ∀ c ∈ t.clips, c.HasCropSize := by simpa using hnone
    exact not_isPlanned_of_undefined hundefined (isPlanned_of_hasCropSize options hsizes)
  · rintro ⟨c, hc, h⟩
    exact build_of_not_hasCropSize hc h options
  · exact isPlanned_of_hasCropSize options fun c hc => Timeline.hasCropSize_of_mem_clips hedits hc

/-- Nothing is a number in these edits but the window of one and the sides of its crop. -/
theorem isPlanned_compile_of_nan :
    let nan : Binary64 := .nan false
    let crop : CropRect Binary64 := ⟨nan, nan, .infinite false, 0.5⟩
    let edits : List (Edit Binary64) :=
      [.transform ⟨0, 10⟩ ⟨nan, nan, nan, nan, true, true, some crop⟩, .speed ⟨nan, nan⟩ nan,
        .volume ⟨0, nan⟩ nan, .music "calm" nan]
    (∀ e ∈ edits, e.HasCropSize) ∧
      IsPlanned (Timeline.compile [] edits 10) .default := by
  intro nan crop edits
  have hedits : ∀ e ∈ edits, e.HasCropSize := by decide +kernel
  exact ⟨hedits, (isPlanned_compile_iff [] edits 10 .default).2.2 hedits⟩

/-- One crop without a width takes the plan away. -/
theorem exists_not_isPlanned_compile :
    let crop : CropRect Binary64 := ⟨0, 0, .nan false, 1⟩
    let edits : List (Edit Binary64) :=
      [.transform ⟨0, 10⟩ ⟨1, 0, 0, 0, false, false, some crop⟩]
    build (Timeline.compile [] edits 10) .default = .error .undefinedCrop ∧
      ¬ IsPlanned (Timeline.compile [] edits 10) .default := by
  intro crop edits
  have hcrop : ∃ c ∈ (Timeline.compile [] edits 10).clips, ¬ c.HasCropSize := by
    decide +kernel
  obtain ⟨c, hc, h⟩ := hcrop
  have hundefined := build_of_not_hasCropSize hc h .default
  exact ⟨hundefined, not_isPlanned_of_undefined hundefined⟩

end Plan

end Montage
