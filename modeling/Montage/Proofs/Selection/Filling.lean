import Montage.Proofs.Number.Exact
import Montage.Proofs.Sorting
import Montage.Selection

/-! The ranking is by score, and among equal scores it is the input. -/
namespace Montage

/-- The segment ranks before another: its score is higher, or it is equal and the segment comes
first in the input. -/
def Segment.Outranks {α : Type} [Scalar α] [DecidableEq α] (segments : List (Segment α))
    (intent : Intent α) (s t : Segment α) : Prop :=
  t.score intent < s.score intent ∨
    s.score intent = t.score intent ∧ segments.idxOf s < segments.idxOf t

namespace Selection

variable {segments : List (Segment Rat)} {intent : Intent Rat} {s t : Segment Rat}

theorem ranked_perm (segments : List (Segment Rat)) (intent : Intent Rat) :
    (ranked segments intent).Perm segments :=
  List.mergeSort_perm segments _

theorem precedes_score_trans (intent : Intent Rat) (a b c : Segment Rat)
    (hab : Scalar.precedes (b.score intent) (a.score intent))
    (hbc : Scalar.precedes (c.score intent) (b.score intent)) :
    Scalar.precedes (c.score intent) (a.score intent) :=
  LawfulScalar.precedes_trans _ _ _ hbc hab

theorem precedes_score_total (intent : Intent Rat) (a b : Segment Rat) :
    Scalar.precedes (b.score intent) (a.score intent) ||
      Scalar.precedes (a.score intent) (b.score intent) :=
  LawfulScalar.precedes_total _ _

theorem pairwise_ranked (segments : List (Segment Rat)) (intent : Intent Rat) :
    (ranked segments intent).Pairwise fun s t => t.score intent ≤ s.score intent :=
  (List.pairwise_mergeSort (precedes_score_trans intent) (precedes_score_total intent)
    segments).imp of_decide_eq_true

/-- What comes first in the sorted list ranks first. -/
theorem outranks_of_idxOf_lt (ht : t ∈ segments)
    (h : (ranked segments intent).idxOf s < (ranked segments intent).idxOf t) :
    s.Outranks segments intent t := by
  have ht : t ∈ ranked segments intent := (ranked_perm segments intent).mem_iff.mpr ht
  have hend := List.idxOf_lt_length_iff.mpr ht
  have hscore := List.pairwise_iff_getElem.mp (pairwise_ranked segments intent) _ _
    (h.trans hend) hend h
  rw [List.getElem_idxOf, List.getElem_idxOf] at hscore
  rcases lt_or_eq_of_le hscore with hlt | heq
  · exact Or.inl hlt
  · -- Among segments of one score, the ranking is the input.
    have hties : (ranked segments intent).filter (·.score intent = s.score intent) =
        segments.filter (·.score intent = s.score intent) := by
      refine filter_mergeSort_of_tied (precedes_score_trans intent) (precedes_score_total intent)
        (fun a b ha hb => decide_eq_true ?_) segments
      rw [of_decide_eq_true ha, of_decide_eq_true hb]
    rw [← idxOf_filter_lt_iff (P := (·.score intent = s.score intent)) (by simp) (by simp [heq]),
      hties, idxOf_filter_lt_iff (by simp) (by simp [heq])] at h
    exact Or.inr ⟨heq.symm, h⟩

end Selection

end Montage

/-! Filling a selection takes a prefix. What there is to take does not depend on the target: it is
the ranking, with each id once. The target only says how much of it is taken. -/
namespace Montage.Selection

section Fresh

variable {α : Type} {ids : List String} {picks : List (Pick α)}
  {segments front back : List (Segment α)} {s p : Segment α} {id : String}

/-- The segments in order, each id once and none of the given ids. -/
def fresh (ids : List String) : List (Segment α) → List (Segment α)
  | [] => []
  | s :: rest => if s.id ∈ ids then fresh ids rest else s :: fresh (ids ++ [s.id]) rest

theorem taken_iff : taken picks id = true ↔ id ∈ picks.map (·.id) := by
  simp [taken]

theorem fresh_cons_of_mem (h : s.id ∈ ids) (rest : List (Segment α)) :
    fresh ids (s :: rest) = fresh ids rest :=
  if_pos h

theorem fresh_cons_of_notMem (h : s.id ∉ ids) (rest : List (Segment α)) :
    fresh ids (s :: rest) = s :: fresh (ids ++ [s.id]) rest :=
  if_neg h

theorem fresh_sublist (ids : List String) (segments : List (Segment α)) :
    (fresh ids segments).Sublist segments := by
  induction segments generalizing ids with
  | nil => exact List.Sublist.refl _
  | cons s rest ih =>
    by_cases hid : s.id ∈ ids
    · rw [fresh_cons_of_mem hid]
      exact (ih ids).cons s
    · rw [fresh_cons_of_notMem hid]
      exact (ih _).cons_cons s

theorem notMem_of_mem_fresh (h : s ∈ fresh ids segments) : s.id ∉ ids := by
  induction segments generalizing ids with
  | nil => cases h
  | cons t rest ih =>
    by_cases hid : t.id ∈ ids
    · rw [fresh_cons_of_mem hid] at h
      exact ih h
    · rw [fresh_cons_of_notMem hid] at h
      rcases List.mem_cons.mp h with rfl | h
      · exact hid
      · exact fun hmem => ih h (List.mem_append_left _ hmem)

theorem nodup_fresh (ids : List String) (segments : List (Segment α)) :
    ((fresh ids segments).map (·.id)).Nodup := by
  induction segments generalizing ids with
  | nil => exact List.nodup_nil
  | cons s rest ih =>
    by_cases hid : s.id ∈ ids
    · rw [fresh_cons_of_mem hid]
      exact ih ids
    · rw [fresh_cons_of_notMem hid, List.map_cons, List.nodup_cons]
      refine ⟨fun hmem => ?_, ih _⟩
      obtain ⟨t, ht, heq⟩ := List.mem_map.mp hmem
      exact notMem_of_mem_fresh ht (by simp [heq])

/-- No id is lost. -/
theorem mem_ids_or_fresh (h : s ∈ segments) :
    s.id ∈ ids ∨ s.id ∈ (fresh ids segments).map (·.id) := by
  induction segments generalizing ids with
  | nil => cases h
  | cons t rest ih =>
    by_cases hid : t.id ∈ ids
    · rw [fresh_cons_of_mem hid]
      rcases List.mem_cons.mp h with rfl | h
      · exact Or.inl hid
      · exact ih h
    · rw [fresh_cons_of_notMem hid, List.map_cons, List.mem_cons]
      rcases List.mem_cons.mp h with rfl | h
      · exact Or.inr (Or.inl rfl)
      · rw [← or_assoc, ← List.mem_singleton, ← List.mem_append]
        exact ih h

/-- A fresh segment comes before every segment with an id that was not seen when it came. -/
theorem idxOf_lt_of_fresh [DecidableEq α] (h : fresh ids segments = front ++ p :: back)
    (hs : s.id ∉ ids) (hfront : s.id ∉ front.map (·.id)) (hp : s.id ≠ p.id) :
    segments.idxOf p < segments.idxOf s := by
  induction segments generalizing ids front with
  | nil => simp [fresh] at h
  | cons t rest ih =>
    by_cases hid : t.id ∈ ids
    · rw [fresh_cons_of_mem hid] at h
      have hmem : p ∈ fresh ids rest := by simp [h]
      have htp : t ≠ p := fun heq => notMem_of_mem_fresh hmem (heq ▸ hid)
      have hts : t ≠ s := fun heq => hs (heq ▸ hid)
      rw [List.idxOf_cons_ne rest htp, List.idxOf_cons_ne rest hts]
      exact Nat.succ_lt_succ (ih h hs hfront)
    · rw [fresh_cons_of_notMem hid] at h
      cases front with
      | nil =>
        obtain ⟨rfl, -⟩ := List.cons.inj h
        have hts : t ≠ s := fun heq => hp (heq ▸ rfl)
        rw [List.idxOf_cons_eq rest rfl, List.idxOf_cons_ne rest hts]
        exact Nat.succ_pos _
      | cons u front =>
        obtain ⟨rfl, hrest⟩ := List.cons.inj h
        rw [List.map_cons, List.mem_cons, not_or] at hfront
        have hids : s.id ∉ ids ++ [t.id] := by simp [hs, hfront.1]
        have hmem : p ∈ fresh (ids ++ [t.id]) rest := by simp [hrest]
        have htp : t ≠ p := fun heq => notMem_of_mem_fresh hmem (by simp [heq])
        have hts : t ≠ s := fun heq => hfront.1 (heq ▸ rfl)
        rw [List.idxOf_cons_ne rest htp, List.idxOf_cons_ne rest hts]
        exact Nat.succ_lt_succ (ih hrest hids hfront.2)

end Fresh

section Filling

variable {α : Type} [Scalar α] {target total : α}

/-- The segments from the front until the total meets the target, or all of them. -/
def untilMet (target : α) : α → List (Segment α) → List (Segment α)
  | _, [] => []
  | total, s :: rest =>
    if target ≤ total then [] else s :: untilMet target (total + s.duration) rest

theorem untilMet_of_le (h : target ≤ total) (segments : List (Segment α)) :
    untilMet target total segments = [] := by
  cases segments with
  | nil => rfl
  | cons s rest => exact if_pos h

theorem untilMet_cons_of_not_le (h : ¬ target ≤ total) (s : Segment α) (rest : List (Segment α)) :
    untilMet target total (s :: rest) = s :: untilMet target (total + s.duration) rest :=
  if_neg h

theorem untilMet_prefix_self (target total : α) (segments : List (Segment α)) :
    untilMet target total segments <+: segments := by
  induction segments generalizing total with
  | nil => exact List.prefix_refl _
  | cons s rest ih =>
    by_cases hmet : target ≤ total
    · rw [untilMet_of_le hmet]
      exact List.nil_prefix
    · rw [untilMet_cons_of_not_le hmet]
      exact List.cons_prefix_cons.mpr ⟨rfl, ih _⟩

/-- Filling adds the fresh segments in order until the target is met. -/
theorem fill_eq (intent : Intent α) (target total : α) (segments : List (Segment α))
    (picks : List (Pick α)) :
    fill intent target segments total picks =
      picks ++ (untilMet target total (fresh (picks.map (·.id)) segments)).map
        fun s => ⟨s, s.reason intent⟩ := by
  induction segments generalizing total picks with
  | nil => simp [fill, fresh, untilMet]
  | cons s rest ih =>
    unfold fill
    by_cases hmet : target ≤ total
    · rw [if_pos hmet, untilMet_of_le hmet, List.map_nil, List.append_nil]
    · rw [if_neg hmet]
      by_cases hid : s.id ∈ picks.map (·.id)
      · rw [if_pos (taken_iff.mpr hid), fresh_cons_of_mem hid, ih]
      · rw [if_neg (mt taken_iff.mp hid), fresh_cons_of_notMem hid,
          untilMet_cons_of_not_le hmet, ih, List.map_append]
        simp only [List.map_cons, List.map_nil, List.append_assoc, List.singleton_append]

end Filling

section Exact

variable {target low high total : Rat} {segments front : List (Segment Rat)} {s : Segment Rat}

/-- Before the last segment was taken, the target was not met. -/
theorem lt_of_untilMet_eq_concat (h : untilMet target total segments = front ++ [s]) :
    total + (front.map (·.duration)).sum < target := by
  induction segments generalizing total front with
  | nil => simp [untilMet] at h
  | cons t rest ih =>
    by_cases hmet : target ≤ total
    · simp [untilMet_of_le hmet] at h
    · rw [untilMet_cons_of_not_le hmet] at h
      cases front with
      | nil => simpa using hmet
      | cons u front =>
        obtain ⟨rfl, hrest⟩ := List.cons.inj h
        rw [List.map_cons, List.sum_cons, ← add_assoc]
        exact ih hrest

/-- The target is met, or nothing is left to take. -/
theorem untilMet_eq_or_le (target total : Rat) (segments : List (Segment Rat)) :
    untilMet target total segments = segments ∨
      target ≤ total + ((untilMet target total segments).map (·.duration)).sum := by
  induction segments generalizing total with
  | nil => exact Or.inl rfl
  | cons s rest ih =>
    by_cases hmet : target ≤ total
    · refine Or.inr ?_
      rw [untilMet_of_le hmet, List.map_nil, List.sum_nil, add_zero]
      exact hmet
    · rw [untilMet_cons_of_not_le hmet, List.map_cons, List.sum_cons, ← add_assoc]
      rcases ih (total + s.duration) with h | h
      · exact Or.inl (congrArg (s :: ·) h)
      · exact Or.inr h

/-- A higher target only takes more. -/
theorem untilMet_prefix_of_le (h : low ≤ high) (total : Rat) (segments : List (Segment Rat)) :
    untilMet low total segments <+: untilMet high total segments := by
  induction segments generalizing total with
  | nil => exact List.prefix_refl _
  | cons s rest ih =>
    by_cases hmet : low ≤ total
    · rw [untilMet_of_le hmet]
      exact List.nil_prefix
    · have hhigh : ¬ high ≤ total := fun hle => hmet (le_trans h hle)
      rw [untilMet_cons_of_not_le hmet, untilMet_cons_of_not_le hhigh]
      exact List.cons_prefix_cons.mpr ⟨rfl, ih _⟩

end Exact

end Montage.Selection
