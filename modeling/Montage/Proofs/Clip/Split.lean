import Montage.Clip.Basic
import Montage.Proofs.Edit.Normal
import Montage.Proofs.Sorting
import Montage.Proofs.Span

/-! One pass of cutting is enough: no piece can be cut again, the pieces of a clip tile it, and each
says how long it is. All of it holds in rounded arithmetic. -/
namespace Montage.Clip

variable {α : Type} [Scalar α] {margin point : α} {points : List α} {clips : List (Clip α)}
  {c d : Clip α}

/-- The clip runs forward and says how long it is. -/
structure Measured (c : Clip α) : Prop where
  forward : c.span.start < c.span.stop
  duration_eq : c.duration = c.span.stop - c.span.start

/-- None of the points cuts the clip. -/
def Saturated (margin : α) (points : List α) (c : Clip α) : Prop :=
  ∀ point ∈ points, ¬ c.Splits margin point

theorem mem_splitAt : d ∈ splitAt margin point c ↔
    (c.Splits margin point ∧
      (d = c.piece ⟨c.span.start, point⟩ ∨ d = c.piece ⟨point, c.span.stop⟩)) ∨
    (¬ c.Splits margin point ∧ d = c) := by
  unfold splitAt
  split <;> simp_all

theorem splitAll_nil (margin : α) (clips : List (Clip α)) : splitAll margin [] clips = clips := rfl

theorem splitAll_cons (margin point : α) (points : List α) (clips : List (Clip α)) :
    splitAll margin (point :: points) clips =
      splitAll margin points (clips.flatMap (splitAt margin point)) := rfl

/-- What every cut keeps holds of every piece. -/
theorem splitAll_induction {P : Clip α → Prop}
    (hstep : ∀ c, P c → ∀ point, ∀ d ∈ splitAt margin point c, P d)
    (hclips : ∀ c ∈ clips, P c) : ∀ d ∈ splitAll margin points clips, P d := by
  induction points generalizing clips with
  | nil => exact hclips
  | cons point points ih =>
    rw [splitAll_cons]
    apply ih
    intro d hd
    obtain ⟨c, hc, hdc⟩ := List.mem_flatMap.mp hd
    exact hstep c (hclips c hc) point d hdc

/-- Clips are cut one by one, without regard to each other. -/
theorem splitAll_eq_flatMap (margin : α) (points : List α) (clips : List (Clip α)) :
    splitAll margin points clips = clips.flatMap fun c => splitAll margin points [c] := by
  induction points generalizing clips with
  | nil => simp [splitAll_nil]
  | cons point points ih =>
    rw [splitAll_cons, ih, List.flatMap_assoc]
    congr 1
    funext c
    rw [splitAll_cons, ih (List.flatMap _ [c]), List.flatMap_singleton]

theorem tiles_splitAt (margin point : α) (c : Clip α) :
    Span.Tiles c.span ((splitAt margin point c).map (·.span)) := by
  unfold splitAt
  split
  · exact ⟨rfl, rfl, rfl⟩
  · exact Span.tiles_singleton c.span

theorem tiles_splitAll (margin : α) (points : List α) (c : Clip α) :
    Span.Tiles c.span ((splitAll margin points [c]).map (·.span)) := by
  have step : ∀ clips : List (Clip α), Span.Tiles c.span (clips.map (·.span)) →
      Span.Tiles c.span ((splitAll margin points clips).map (·.span)) := by
    induction points with
    | nil => exact fun _ h => h
    | cons point points ih =>
      intro clips h
      exact ih _ (Span.tiles_flatMap (fun x _ => tiles_splitAt margin point x) h)
  exact step [c] (Span.tiles_singleton c.span)

theorem splitAt_of_not_splits (h : ¬ c.Splits margin point) : splitAt margin point c = [c] :=
  if_neg h

theorem splitAll_of_saturated (h : ∀ c ∈ clips, c.Saturated margin points) :
    splitAll margin points clips = clips := by
  induction points with
  | nil => rfl
  | cons point points ih =>
    have hsame : clips.flatMap (splitAt margin point) = clips := by
      rw [List.flatMap_congr fun c hc => splitAt_of_not_splits (h c hc point List.mem_cons_self)]
      exact List.flatMap_singleton' clips
    rw [splitAll_cons, hsame]
    exact ih fun c hc p hp => h c hc p (List.mem_cons_of_mem point hp)

section Lawful

variable [LawfulScalar α]

theorem Splits.start_lt (hm : 0 ≤ margin) (h : c.Splits margin point) : c.span.start < point :=
  LawfulScalar.lt_of_add_lt hm h.1

theorem Splits.lt_stop (hm : 0 ≤ margin) (h : c.Splits margin point) : point < c.span.stop :=
  LawfulScalar.lt_of_lt_sub hm h.2

theorem measured_of_mem_splitAt (hm : 0 ≤ margin) (hc : c.Measured)
    (hd : d ∈ splitAt margin point c) : d.Measured := by
  rcases mem_splitAt.mp hd with ⟨hsplit, rfl | rfl⟩ | ⟨-, rfl⟩
  · have hleft : c.span.start < point := hsplit.start_lt hm
    exact ⟨hleft, rfl⟩
  · have hright : point < c.span.stop := hsplit.lt_stop hm
    exact ⟨hright, rfl⟩
  · exact hc

theorem within_of_mem_splitAt (hm : 0 ≤ margin) (hc : c.Measured)
    (hd : d ∈ splitAt margin point c) : d.span.Within c.span := by
  have hstart : c.span.start ≤ c.span.start :=
    LawfulScalar.le_self_left (Scalar.le_of_lt hc.forward)
  have hstop : c.span.stop ≤ c.span.stop :=
    LawfulScalar.le_self_right (Scalar.le_of_lt hc.forward)
  rcases mem_splitAt.mp hd with ⟨hsplit, rfl | rfl⟩ | ⟨-, rfl⟩
  · exact ⟨hstart, Scalar.le_of_lt (hsplit.lt_stop hm)⟩
  · exact ⟨Scalar.le_of_lt (hsplit.start_lt hm), hstop⟩
  · exact ⟨hstart, hstop⟩

theorem measured_of_mem_splitAll (hm : 0 ≤ margin) (hclips : ∀ c ∈ clips, c.Measured) :
    ∀ d ∈ splitAll margin points clips, d.Measured :=
  splitAll_induction (fun _ hc _ _ hd => measured_of_mem_splitAt hm hc hd) hclips

/-- A point that does not cut a clip does not cut a part of it. -/
theorem splits_of_within (h : d.span.Within c.span) (hd : d.Splits margin point) :
    c.Splits margin point :=
  ⟨LawfulScalar.add_lt_of_le h.1 hd.1, LawfulScalar.lt_sub_of_le h.2 hd.2⟩

theorem not_splits_of_mem_splitAt (hm : 0 ≤ margin) (hd : d ∈ splitAt margin point c) :
    ¬ d.Splits margin point := by
  rcases mem_splitAt.mp hd with ⟨-, rfl | rfl⟩ | ⟨hwhole, rfl⟩
  · exact fun h => Scalar.lt_irrefl point (h.lt_stop hm)
  · exact fun h => Scalar.lt_irrefl point (h.start_lt hm)
  · exact hwhole

/-- The invariant of the pass: a point that has been applied cuts nothing any more, whatever is cut
after it. -/
theorem saturated_of_mem_splitAll (hm : 0 ≤ margin) (hclips : ∀ c ∈ clips, c.Measured) :
    ∀ d ∈ splitAll margin points clips, d.Saturated margin points := by
  induction points generalizing clips with
  | nil => simp [Saturated]
  | cons point points ih =>
    rw [splitAll_cons]
    have hmeasured : ∀ d ∈ clips.flatMap (splitAt margin point), d.Measured := by
      intro d hd
      obtain ⟨c, hc, hdc⟩ := List.mem_flatMap.mp hd
      exact measured_of_mem_splitAt hm (hclips c hc) hdc
    have happlied : ∀ d ∈ clips.flatMap (splitAt margin point), ¬ d.Splits margin point := by
      intro d hd
      obtain ⟨c, hc, hdc⟩ := List.mem_flatMap.mp hd
      exact not_splits_of_mem_splitAt hm hdc
    have hkept : ∀ d ∈ splitAll margin points (clips.flatMap (splitAt margin point)),
        d.Measured ∧ ¬ d.Splits margin point := by
      refine splitAll_induction ?_ fun d hd => ⟨hmeasured d hd, happlied d hd⟩
      rintro c ⟨hc, hnot⟩ q d hd
      exact ⟨measured_of_mem_splitAt hm hc hd,
        fun h => hnot (splits_of_within (within_of_mem_splitAt hm hc hd) h)⟩
    intro d hd q hq
    rcases List.mem_cons.mp hq with rfl | hq
    · exact (hkept d hd).2
    · exact ih hmeasured d hd q hq

end Lawful

end Montage.Clip

/-! A point that repeats cuts nothing more. What a clip is cut into depends on which points there
are, and not on how often each of them stands in the list. -/
namespace Montage.Clip

variable {α : Type} [Scalar α] {margin point other : α} {points extra : List α}
  {clips : List (Clip α)} {c : Clip α}

theorem splitAll_append (margin : α) (points others : List α) (clips : List (Clip α)) :
    splitAll margin (points ++ others) clips =
      splitAll margin others (splitAll margin points clips) :=
  List.foldl_append

section Lawful

variable [LawfulScalar α]

/-- A point that only cuts where another does has nothing left to cut right after it. -/
theorem splitAll_cons_cons (hm : 0 ≤ margin)
    (h : ∀ c : Clip α, c.Splits margin other → c.Splits margin point) (points : List α)
    (clips : List (Clip α)) :
    splitAll margin (point :: other :: points) clips = splitAll margin (point :: points) clips := by
  rw [splitAll_cons, splitAll_cons, splitAll_cons]
  congr 1
  have hwhole : ∀ d ∈ clips.flatMap (splitAt margin point), splitAt margin other d = [d] := by
    intro d hd
    obtain ⟨c, -, hdc⟩ := List.mem_flatMap.mp hd
    exact splitAt_of_not_splits (mt (h d) (not_splits_of_mem_splitAt hm hdc))
  rw [List.flatMap_congr hwhole]
  exact List.flatMap_singleton' _

theorem splits_of_same (h : Scalar.Same point other) (hc : c.Splits margin other) :
    c.Splits margin point :=
  ⟨Scalar.lt_of_lt_of_le hc.1 h.2, Scalar.lt_of_le_of_lt h.1 hc.2⟩

theorem splitAll_withoutRepeats (hm : 0 ≤ margin) (points : List α) (clips : List (Clip α)) :
    splitAll margin (withoutRepeats points) clips = splitAll margin points clips := by
  fun_induction withoutRepeats points generalizing clips with
  | case1 => rfl
  | case2 => rfl
  | case3 x y rest hsame ih =>
    rw [ih, splitAll_cons_cons hm fun _ hc => splits_of_same hsame hc]
  | case4 x y rest _ ih =>
    rw [splitAll_cons, splitAll_cons, ih]

end Lawful

variable [LinearScalar α]

/-- Points that are there already may be added before sorting. -/
theorem splitAll_mergeSort_append (hm : 0 ≤ margin) (h : ∀ x ∈ extra, x ∈ points) :
    splitAll margin ((extra ++ points).mergeSort Scalar.precedes) clips =
      splitAll margin (points.mergeSort Scalar.precedes) clips := by
  induction extra with
  | nil => rfl
  | cons x extra ih =>
    have hx : x ∈ extra ++ points := List.mem_append_right _ (h x List.mem_cons_self)
    obtain ⟨low, high, hrest, hcons⟩ := exists_mergeSort_cons_of_mem LawfulScalar.precedes_trans
      LawfulScalar.precedes_total LinearScalar.precedes_antisymm hx
    rw [← ih fun y hy => h y (List.mem_cons_of_mem x hy), List.cons_append, hcons, hrest,
      splitAll_append, splitAll_append, splitAll_cons_cons hm fun _ hc => hc]

theorem splitAll_boundaries {edits others : List (Edit α)} (hm : 0 ≤ margin)
    (hperm : (Edit.points others).Perm (extra ++ Edit.points edits))
    (h : ∀ x ∈ extra, x ∈ Edit.points edits) (clips : List (Clip α)) :
    splitAll margin (Edit.boundaries others) clips =
      splitAll margin (Edit.boundaries edits) clips := by
  rw [Edit.boundaries_eq, Edit.boundaries_eq, splitAll_withoutRepeats hm,
    splitAll_withoutRepeats hm, Scalar.mergeSort_eq_of_perm hperm, splitAll_mergeSort_append hm h]

end Montage.Clip
