import Montage.Number.Floating
import Montage.Proofs.Clip.Split
import Montage.Proofs.Number.Binary64

/-! Cutting leaves the parts of each clip where the clip was, end to end and with its attributes.
It is complete: no point of the list cuts a part any more, so that cutting again changes nothing. -/
namespace Montage.Clip

section Definitions

variable {α : Type} [Scalar α]

/-- What points cut a clip into. -/
def parts (margin : α) (points : List α) (c : Clip α) : List (Clip α) :=
  splitAll margin points [c]

/-- The parts chain from the start of the clip to its stop, each says how long it is, and in all but
name and span each is the clip. -/
structure IsCutInto (c : Clip α) (parts : List (Clip α)) : Prop where
  ne_nil : parts ≠ []
  tiles : Span.Tiles c.span (parts.map (·.span))
  duration_eq : ∀ d ∈ parts, d.duration = d.span.stop - d.span.start
  inherits : ∀ d ∈ parts, d = { c with id := d.id, span := d.span, duration := d.duration }

/-- Every clip is replaced by its parts, and none of the points cuts what there is then, however
often and in whatever order they are applied again. -/
structure CutsOnce (margin : α) (points : List α) (clips : List (Clip α)) : Prop where
  in_place : splitAll margin points clips = clips.flatMap (parts margin points)
  cut_into : ∀ c ∈ clips, c.IsCutInto (parts margin points c)
  saturated : ∀ d ∈ splitAll margin points clips, d.Saturated margin points
  settled : ∀ others, (∀ point ∈ others, point ∈ points) →
    splitAll margin others (splitAll margin points clips) = splitAll margin points clips

end Definitions

section Parts

variable {α : Type} [Scalar α] {margin point : α} {points : List α} {c d : Clip α}

theorem parts_of_saturated (h : c.Saturated margin points) : parts margin points c = [c] :=
  splitAll_of_saturated fun d hd => by rwa [List.mem_singleton.mp hd]

/-- What every cut keeps, and what holds of the clip, holds of its parts. -/
theorem parts_induction {P : Clip α → Prop}
    (hstep : ∀ c, P c → ∀ point, ∀ d ∈ splitAt margin point c, P d) (hc : P c) :
    ∀ d ∈ parts margin points c, P d :=
  splitAll_induction hstep fun d hd => by rwa [List.mem_singleton.mp hd]

theorem splitAt_ne_nil (margin point : α) (c : Clip α) : splitAt margin point c ≠ [] := by
  unfold splitAt
  split <;> exact List.cons_ne_nil _ _

theorem splitAll_ne_nil {clips : List (Clip α)} (h : clips ≠ []) :
    splitAll margin points clips ≠ [] := by
  induction points generalizing clips with
  | nil => exact h
  | cons point points ih =>
    rw [splitAll_cons]
    apply ih
    obtain ⟨c, hc⟩ := List.exists_mem_of_ne_nil clips h
    obtain ⟨d, hd⟩ := List.exists_mem_of_ne_nil _ (splitAt_ne_nil margin point c)
    exact List.ne_nil_of_mem (List.mem_flatMap.mpr ⟨c, hc, hd⟩)

theorem duration_of_mem_parts (hc : c.duration = c.span.stop - c.span.start)
    (hd : d ∈ parts margin points c) : d.duration = d.span.stop - d.span.start := by
  refine parts_induction (P := fun d => d.duration = d.span.stop - d.span.start) ?_ hc d hd
  intro c hc point d hd
  rcases mem_splitAt.mp hd with ⟨-, rfl | rfl⟩ | ⟨-, rfl⟩
  · rfl
  · rfl
  · exact hc

theorem inherits_of_mem_parts (hd : d ∈ parts margin points c) :
    d = { c with id := d.id, span := d.span, duration := d.duration } := by
  refine parts_induction
    (P := fun d => d = { c with id := d.id, span := d.span, duration := d.duration }) ?_ rfl d hd
  intro x hx point d hd
  rcases mem_splitAt.mp hd with ⟨-, rfl | rfl⟩ | ⟨-, rfl⟩
  · exact congrArg (·.piece ⟨x.span.start, point⟩) hx
  · exact congrArg (·.piece ⟨point, x.span.stop⟩) hx
  · exact hx

theorem isCutInto_parts (hc : c.duration = c.span.stop - c.span.start) :
    c.IsCutInto (parts margin points c) where
  ne_nil := splitAll_ne_nil (List.cons_ne_nil _ _)
  tiles := tiles_splitAll margin points c
  duration_eq _ hd := duration_of_mem_parts hc hd
  inherits _ hd := inherits_of_mem_parts hd

variable [LawfulScalar α]

/-- Only a clip that runs forward can be cut. -/
theorem Splits.forward (hm : 0 ≤ margin) (h : c.Splits margin point) :
    c.span.start < c.span.stop :=
  Scalar.lt_of_lt_of_le (h.start_lt hm) (Scalar.le_of_lt (h.lt_stop hm))

theorem saturated_of_mem_parts (hm : 0 ≤ margin) (hc : c.duration = c.span.stop - c.span.start)
    (hd : d ∈ parts margin points c) : d.Saturated margin points := by
  by_cases huncut : c.Saturated margin points
  · rw [parts_of_saturated huncut] at hd
    rwa [List.mem_singleton.mp hd]
  · obtain ⟨point, -, hsplits⟩ : ∃ point ∈ points, c.Splits margin point := by
      simpa [Saturated] using huncut
    have hmeasured : c.Measured := ⟨hsplits.forward hm, hc⟩
    exact saturated_of_mem_splitAll hm (fun e he => by rwa [List.mem_singleton.mp he]) d hd

theorem cutsOnce_of_durations {clips : List (Clip α)} (hm : 0 < margin)
    (hclips : ∀ c ∈ clips, c.duration = c.span.stop - c.span.start) :
    CutsOnce margin points clips := by
  have hinplace := splitAll_eq_flatMap margin points clips
  have hsaturated : ∀ d ∈ splitAll margin points clips, d.Saturated margin points := by
    intro d hd
    rw [hinplace] at hd
    obtain ⟨c, hc, hdc⟩ := List.mem_flatMap.mp hd
    exact saturated_of_mem_parts (Scalar.le_of_lt hm) (hclips c hc) hdc
  refine ⟨hinplace, fun c hc => isCutInto_parts (hclips c hc), hsaturated, fun others hothers => ?_⟩
  exact splitAll_of_saturated fun d hd point hpoint => hsaturated d hd point (hothers point hpoint)

end Parts

/-- In exact arithmetic a cut leaves more than the margin on both of its sides. -/
theorem lt_length_of_mem_splitAt {margin point : Rat} {c d : Clip Rat}
    (hsplits : c.Splits margin point) (hd : d ∈ splitAt margin point c) :
    margin < d.span.stop - d.span.start := by
  obtain ⟨hlow, hhigh⟩ := hsplits
  rcases mem_splitAt.mp hd with ⟨-, rfl | rfl⟩ | ⟨hwhole, -⟩
  · exact lt_sub_iff_add_lt'.mpr hlow
  · exact lt_sub_comm.mp hhigh
  · exact absurd ⟨hlow, hhigh⟩ hwhole

/-- A clip that can be cut is longer than the margin already, and so are all its parts. -/
theorem lt_length_of_mem_parts {margin : Rat} {points : List Rat} {c d : Clip Rat}
    (hm : 0 ≤ margin) (hcut : parts margin points c ≠ [c]) (hd : d ∈ parts margin points c) :
    margin < d.span.stop - d.span.start := by
  obtain ⟨point, -, hlow, hhigh⟩ : ∃ point ∈ points, c.Splits margin point := by
    simpa [Saturated] using mt parts_of_saturated hcut
  have hlong : margin < c.span.stop - c.span.start := by linarith
  refine parts_induction (P := fun d => margin < d.span.stop - d.span.start) ?_ hlong d hd
  intro c hc point d hd
  rcases mem_splitAt.mp hd with ⟨hsplits, -⟩ | ⟨-, rfl⟩
  · exact lt_length_of_mem_splitAt hsplits hd
  · exact hc

/-- One pass of cutting is enough, in rounded and in exact arithmetic. In exact arithmetic every part
of a clip that was cut is longer than the margin. -/
theorem splitAll_cuts_once :
    (∀ (margin : Binary64) (points : List Binary64) (clips : List (Clip Binary64)), 0 < margin →
      (∀ c ∈ clips, c.duration = c.span.stop - c.span.start) → CutsOnce margin points clips) ∧
    ∀ (margin : Rat) (points : List Rat) (clips : List (Clip Rat)), 0 < margin →
      (∀ c ∈ clips, c.duration = c.span.stop - c.span.start) →
        CutsOnce margin points clips ∧
          ∀ c ∈ clips, parts margin points c ≠ [c] →
            ∀ d ∈ parts margin points c, margin < d.span.stop - d.span.start := by
  refine ⟨fun margin points clips hm hclips => cutsOnce_of_durations hm hclips, ?_⟩
  intro margin points clips hm hclips
  refine ⟨cutsOnce_of_durations hm hclips, fun c _ hcut d hd => ?_⟩
  exact lt_length_of_mem_parts (le_of_lt hm) hcut hd

/-- Three points out of order, of which the last is too near to the one before it to cut. -/
theorem splitAll_cuts_once_of_near_points :
    let rounded : List (Clip Binary64) := [.source "a" ⟨0, 10⟩, .source "b" ⟨12, 20⟩]
    let first : Clip Rat := .source "a" ⟨0, 10⟩
    let clips : List (Clip Rat) := [first, .source "b" ⟨12, 20⟩]
    ((0 : Binary64) < 0.1 ∧ (∀ c ∈ rounded, c.duration = c.span.stop - c.span.start) ∧
        CutsOnce 0.1 [6, 3, 3.05] rounded) ∧
      (0 : Rat) < 0.1 ∧ (∀ c ∈ clips, c.duration = c.span.stop - c.span.start) ∧
        CutsOnce 0.1 [6, 3, 3.05] clips ∧ parts 0.1 [6, 3, 3.05] first ≠ [first] ∧
          ∀ d ∈ parts 0.1 [6, 3, 3.05] first, 0.1 < d.span.stop - d.span.start := by
  intro rounded first clips
  have hm : (0 : Rat) < 0.1 := by decide +kernel
  have hclips : ∀ c ∈ clips, c.duration = c.span.stop - c.span.start := by decide +kernel
  have hcut : parts 0.1 [6, 3, 3.05] first ≠ [first] := by decide +kernel
  have hmRounded : (0 : Binary64) < 0.1 := by decide +kernel
  have hrounded : ∀ c ∈ rounded, c.duration = c.span.stop - c.span.start := by decide +kernel
  obtain ⟨honce, hlong⟩ := splitAll_cuts_once.2 0.1 [6, 3, 3.05] clips hm hclips
  exact ⟨⟨hmRounded, hrounded, splitAll_cuts_once.1 0.1 [6, 3, 3.05] rounded hmRounded hrounded⟩,
    hm, hclips, honce, hcut, hlong first List.mem_cons_self hcut⟩

end Montage.Clip
