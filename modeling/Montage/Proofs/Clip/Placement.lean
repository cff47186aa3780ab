import Montage.Clip.Basic
import Montage.Proofs.Span

/-! Placing sorts the clips by their start and lays them end to end. It reads nothing that an
earlier placing wrote, and writes nothing else. -/
namespace Montage.Clip

variable {α : Type} [Scalar α] {cursor : α} {clips others : List (Clip α)} {c : Clip α}

/-- The clip without its place on the output clock. -/
def unplaced (c : Clip α) : Clip α :=
  { c with timelineStart := 0, displayDuration := 0 }

/-- The clips by their start; clips that start together keep their order. -/
def inMediaOrder (clips : List (Clip α)) : List (Clip α) :=
  clips.mergeSort fun a b => Scalar.precedes a.span.start b.span.start

theorem place_eq (clips : List (Clip α)) : place clips = placeFrom 0 (inMediaOrder clips) := rfl

theorem placeFrom_cons (cursor : α) (c : Clip α) (rest : List (Clip α)) :
    placeFrom cursor (c :: rest) =
      let placed := placeFrom (cursor + c.duration / effectiveRate c.rate) rest
      ({ c with
          displayDuration := c.duration / effectiveRate c.rate
          timelineStart := cursor } :: placed.1, placed.2) := rfl

theorem unplaced_placeFrom (cursor : α) (clips : List (Clip α)) :
    (placeFrom cursor clips).1.map unplaced = clips.map unplaced := by
  induction clips generalizing cursor with
  | nil => rfl
  | cons c rest ih =>
    rw [placeFrom_cons, List.map_cons, List.map_cons, ih]
    rfl

theorem placeFrom_congr (h : clips.map unplaced = others.map unplaced) :
    placeFrom cursor clips = placeFrom cursor others := by
  induction clips generalizing cursor others with
  | nil =>
    cases others with
    | nil => rfl
    | cons d rest => simp at h
  | cons c rest ih =>
    cases others with
    | nil => simp at h
    | cons d others =>
      rw [List.map_cons, List.map_cons, List.cons.injEq] at h
      obtain ⟨hhead, htail⟩ := h
      have hduration : c.duration = d.duration := congrArg (·.duration) hhead
      have hrate : c.rate = d.rate := congrArg (·.rate) hhead
      rw [placeFrom_cons, placeFrom_cons, hduration, hrate, ih htail]
      obtain ⟨⟩ := c
      obtain ⟨⟩ := d
      simp only [unplaced, mk.injEq] at hhead
      obtain ⟨rfl, rfl, -, -, -, -, rfl, rfl, rfl, rfl⟩ := hhead
      rfl

/-- The windows of placed clips follow each other without a gap. -/
theorem tiles_placeFrom (cursor : α) (clips : List (Clip α)) :
    Span.Tiles ⟨cursor, (placeFrom cursor clips).2⟩ ((placeFrom cursor clips).1.map window) := by
  induction clips generalizing cursor with
  | nil => exact rfl
  | cons c rest ih => exact ⟨rfl, ih _⟩

theorem displayDuration_of_mem_placeFrom (h : c ∈ (placeFrom cursor clips).1) :
    c.displayDuration = c.duration / effectiveRate c.rate := by
  induction clips generalizing cursor with
  | nil => simp [placeFrom] at h
  | cons d rest ih =>
    rw [placeFrom_cons] at h
    rcases List.mem_cons.mp h with rfl | h
    · rfl
    · exact ih h

theorem inMediaOrder_perm (clips : List (Clip α)) : (inMediaOrder clips).Perm clips :=
  List.mergeSort_perm clips _

theorem inMediaOrder_of_pairwise
    (h : clips.Pairwise fun a b => Scalar.precedes a.span.start b.span.start) :
    inMediaOrder clips = clips :=
  List.mergeSort_of_pairwise h

theorem pairwise_inMediaOrder [LawfulScalar α] (clips : List (Clip α)) :
    (inMediaOrder clips).Pairwise fun a b => Scalar.precedes a.span.start b.span.start :=
  List.pairwise_mergeSort
    (fun a b c => LawfulScalar.precedes_trans a.span.start b.span.start c.span.start)
    (fun a b => LawfulScalar.precedes_total a.span.start b.span.start) clips

/-- What placing does not write may be read off before or after it. -/
theorem pairwise_of_unplaced {β : Type} {f : Clip α → β} {R : β → β → Prop}
    (hf : ∀ c, f c.unplaced = f c) (h : clips.map unplaced = others.map unplaced)
    (hr : others.Pairwise fun a b => R (f a) (f b)) : clips.Pairwise fun a b => R (f a) (f b) := by
  have hmap := congrArg (List.map f) h
  rw [List.map_map, List.map_map, funext (f := f ∘ unplaced) hf] at hmap
  rw [← List.pairwise_map, hmap]
  exact List.pairwise_map.mpr hr

/-- Placing again what is in order, with whatever placement it had, changes nothing. -/
theorem place_of_unplaced_eq [LawfulScalar α]
    (h : clips.map unplaced = (inMediaOrder others).map unplaced) : place clips = place others := by
  have hsorted := pairwise_of_unplaced (f := fun c => c.span.start)
    (R := fun x y => Scalar.precedes x y) (fun _ => rfl) h (pairwise_inMediaOrder others)
  rw [place_eq, place_eq, inMediaOrder_of_pairwise hsorted]
  exact placeFrom_congr h

end Montage.Clip
