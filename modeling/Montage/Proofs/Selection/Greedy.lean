import Montage.Proofs.Selection.Filling

/-! A selection is its anchors and a prefix of the ranking, no longer than it takes to meet the
target. -/
namespace Montage.Selection

/-- The id of the first segment, when the opening is kept, or of the last of at least two, when the
ending is. -/
def IsAnchor {α : Type} (segments : List (Segment α)) (intent : Intent α) (id : String) : Prop :=
  (intent.keepStart = true ∧ ∃ s ∈ segments.head?, s.id = id) ∨
    (intent.keepEnd = true ∧ 1 < segments.length ∧ ∃ s ∈ segments.getLast?, s.id = id)

/-- Anchors, and then the best of the ranking, as few as meet the target. -/
structure IsGreedy (segments : List (Segment Rat)) (intent : Intent Rat) (S : Selection Rat) :
    Prop where
  target_eq : S.target = max (min intent.target ((segments.map (·.span.stop)).foldl max 0)) 0
  total_eq : S.total = (S.picks.map (·.duration)).sum
  ordered : S.picks.Pairwise fun p q => p.span.start ≤ q.span.start
  copied : ∀ p ∈ S.picks, p.toSegment ∈ segments
  distinct : (S.picks.map (·.id)).Nodup
  anchored : ∀ id, IsAnchor segments intent id → id ∈ S.picks.map (·.id)
  best : ∀ p ∈ S.picks, ¬ IsAnchor segments intent p.id →
    ∀ s ∈ segments, s.id ∉ S.picks.map (·.id) → p.toSegment.Outranks segments intent s
  /-- Without the pick that ranks last, the target is missed. -/
  needed : (∃ p ∈ S.picks, ¬ IsAnchor segments intent p.id) →
    ∃ p ∈ S.picks, ¬ IsAnchor segments intent p.id ∧
      (∀ q ∈ S.picks, ¬ IsAnchor segments intent q.id → q ≠ p →
        q.toSegment.Outranks segments intent p.toSegment) ∧
      S.total - p.duration < S.target
  enough : S.target ≤ S.total ∨ ∀ s ∈ segments, s.id ∈ S.picks.map (·.id)

section Definitions

variable {α : Type} [Scalar α]

/-- The segments picked for their score, the best first. -/
def added (segments : List (Segment α)) (intent : Intent α) : List (Segment α) :=
  let kept := anchors segments intent
  untilMet (ofSegments segments intent).target (Scalar.sum (kept.map (·.duration)))
    (fresh (kept.map (·.id)) (ranked segments intent))

/-- The picks in the order in which they are chosen. -/
def chosen (segments : List (Segment α)) (intent : Intent α) : List (Pick α) :=
  anchors segments intent ++ (added segments intent).map fun s => ⟨s, s.reason intent⟩

theorem picks_eq (segments : List (Segment α)) (intent : Intent α) :
    (ofSegments segments intent).picks =
      (chosen segments intent).mergeSort fun p q => Scalar.precedes p.span.start q.span.start := by
  rw [chosen, added, ← fill_eq]
  rfl

theorem picks_perm (segments : List (Segment α)) (intent : Intent α) :
    (ofSegments segments intent).picks.Perm (chosen segments intent) := by
  rw [picks_eq]
  exact List.mergeSort_perm _ _

end Definitions

section Anchors

variable {α : Type} {reason id : String} {segment : Option (Segment α)} {picks : List (Pick α)}
  {p : Pick α}

theorem mem_ids_reserve : id ∈ (reserve reason segment picks).map (·.id) ↔
    id ∈ picks.map (·.id) ∨ ∃ s ∈ segment, s.id = id := by
  cases segment with
  | none => simp [reserve]
  | some s =>
    unfold reserve
    dsimp only
    split
    · rename_i htaken
      rw [taken_iff] at htaken
      constructor
      · exact Or.inl
      · rintro (h | ⟨t, ht, rfl⟩)
        · exact h
        · obtain rfl := Option.some.inj ht
          exact htaken
    · simp [eq_comm]

theorem nodup_reserve (h : (picks.map (·.id)).Nodup) :
    ((reserve reason segment picks).map (·.id)).Nodup := by
  cases segment with
  | none => exact h
  | some s =>
    unfold reserve
    dsimp only
    split
    · exact h
    · rename_i hnew
      rw [taken_iff] at hnew
      rw [List.map_append, List.nodup_append]
      refine ⟨h, List.nodup_singleton _, ?_⟩
      rintro a ha b hb rfl
      obtain rfl := List.mem_singleton.mp hb
      exact hnew ha

theorem mem_reserve (h : p ∈ reserve reason segment picks) :
    p ∈ picks ∨ p.toSegment ∈ segment := by
  cases segment with
  | none => exact Or.inl h
  | some s =>
    unfold reserve at h
    dsimp only at h
    split at h
    · exact Or.inl h
    · rcases List.mem_append.mp h with h | h
      · exact Or.inl h
      · obtain rfl := List.mem_singleton.mp h
        exact Or.inr rfl

variable {segments : List (Segment α)} {intent : Intent α}

/-- A place that is not kept reserves nothing. -/
theorem anchors_eq (segments : List (Segment α)) (intent : Intent α) :
    anchors segments intent =
      reserve "kept ending"
        (if intent.keepEnd = true ∧ 1 < segments.length then segments.getLast? else none)
        (reserve "kept opening" (if intent.keepStart then segments.head? else none) []) := by
  have hopening : (if intent.keepStart then reserve "kept opening" segments.head? [] else []) =
      reserve "kept opening" (if intent.keepStart then segments.head? else none) [] := by
    split <;> rfl
  unfold anchors
  rw [hopening]
  dsimp only
  split <;> rfl

theorem mem_ids_anchors :
    id ∈ (anchors segments intent).map (·.id) ↔ IsAnchor segments intent id := by
  rw [anchors_eq, mem_ids_reserve, mem_ids_reserve, IsAnchor]
  simp [and_assoc]

theorem nodup_anchors (segments : List (Segment α)) (intent : Intent α) :
    ((anchors segments intent).map (·.id)).Nodup := by
  rw [anchors_eq]
  exact nodup_reserve (nodup_reserve List.nodup_nil)

theorem mem_of_mem_anchors (h : p ∈ anchors segments intent) : p.toSegment ∈ segments := by
  rw [anchors_eq] at h
  rcases mem_reserve h with h | h
  · rcases mem_reserve h with h | h
    · cases h
    · split at h
      · exact List.mem_of_mem_head? h
      · cases h
  · split at h
    · exact List.mem_of_getLast? h
    · cases h

end Anchors

section Exact

variable {segments : List (Segment Rat)} {intent : Intent Rat} {p : Pick Rat} {s t : Segment Rat}

theorem target_ofSegments (segments : List (Segment Rat)) (intent : Intent Rat) :
    (ofSegments segments intent).target =
      max (min intent.target ((segments.map (·.span.stop)).foldl max 0)) 0 := by
  rw [← Rational.maximum_eq, ← Rational.min_eq, ← Rational.max_eq]
  rfl

theorem precedes_start_trans (p q r : Pick Rat) (hpq : Scalar.precedes p.span.start q.span.start)
    (hqr : Scalar.precedes q.span.start r.span.start) :
    Scalar.precedes p.span.start r.span.start :=
  LawfulScalar.precedes_trans _ _ _ hpq hqr

theorem precedes_start_total (p q : Pick Rat) :
    Scalar.precedes p.span.start q.span.start || Scalar.precedes q.span.start p.span.start :=
  LawfulScalar.precedes_total _ _

theorem added_prefix_fresh (segments : List (Segment Rat)) (intent : Intent Rat) :
    added segments intent <+:
      fresh ((anchors segments intent).map (·.id)) (ranked segments intent) :=
  untilMet_prefix_self _ _ _

theorem mem_of_mem_added (h : s ∈ added segments intent) : s ∈ segments :=
  (ranked_perm segments intent).mem_iff.mp
    ((fresh_sublist _ _).subset ((added_prefix_fresh segments intent).subset h))

theorem not_isAnchor_of_mem_added (h : s ∈ added segments intent) :
    ¬ IsAnchor segments intent s.id :=
  mt mem_ids_anchors.mpr (notMem_of_mem_fresh ((added_prefix_fresh segments intent).subset h))

theorem nodup_added (segments : List (Segment Rat)) (intent : Intent Rat) :
    ((added segments intent).map (·.id)).Nodup :=
  (nodup_fresh _ _).sublist ((added_prefix_fresh segments intent).sublist.map _)

theorem ids_chosen (segments : List (Segment Rat)) (intent : Intent Rat) :
    (chosen segments intent).map (·.id) =
      (anchors segments intent).map (·.id) ++ (added segments intent).map (·.id) := by
  simp [chosen]

theorem mem_ids_picks {id : String} : id ∈ (ofSegments segments intent).picks.map (·.id) ↔
    IsAnchor segments intent id ∨ id ∈ (added segments intent).map (·.id) := by
  rw [((picks_perm segments intent).map _).mem_iff, ids_chosen, List.mem_append, mem_ids_anchors]

/-- The picks that are no anchors are the segments picked for their score. -/
theorem mem_added_iff (hp : p ∈ (ofSegments segments intent).picks) :
    p.toSegment ∈ added segments intent ↔ ¬ IsAnchor segments intent p.id := by
  refine ⟨not_isAnchor_of_mem_added, fun hanchor => ?_⟩
  rw [(picks_perm segments intent).mem_iff, chosen, List.mem_append] at hp
  rcases hp with hp | hp
  · exact absurd (mem_ids_anchors.mp (List.mem_map_of_mem hp)) hanchor
  · obtain ⟨s, hs, rfl⟩ := List.mem_map.mp hp
    exact hs

theorem nodup_ids_picks (segments : List (Segment Rat)) (intent : Intent Rat) :
    ((ofSegments segments intent).picks.map (·.id)).Nodup := by
  rw [((picks_perm segments intent).map _).nodup_iff, ids_chosen, List.nodup_append]
  refine ⟨nodup_anchors segments intent, nodup_added segments intent, ?_⟩
  rintro a ha b hb rfl
  obtain ⟨s, hs, rfl⟩ := List.mem_map.mp hb
  exact not_isAnchor_of_mem_added hs (mem_ids_anchors.mp ha)

theorem exists_pick_of_mem_added (h : s ∈ added segments intent) :
    ∃ p ∈ (ofSegments segments intent).picks, p.toSegment = s := by
  refine ⟨⟨s, s.reason intent⟩, (picks_perm segments intent).mem_iff.mpr ?_, rfl⟩
  exact List.mem_append_right _ (List.mem_map_of_mem h)

/-- A segment that is picked for its score outranks all whose ids were not seen before it. -/
theorem outranks_of_added {front back : List (Segment Rat)}
    (h : added segments intent = front ++ s :: back) (ht : t ∈ segments)
    (hanchor : ¬ IsAnchor segments intent t.id) (hfront : t.id ∉ front.map (·.id))
    (hne : t.id ≠ s.id) : s.Outranks segments intent t := by
  obtain ⟨rest, hrest⟩ := added_prefix_fresh segments intent
  rw [h, List.append_assoc, List.cons_append] at hrest
  exact outranks_of_idxOf_lt ht
    (idxOf_lt_of_fresh hrest.symm (mt mem_ids_anchors.mp hanchor) hfront hne)

theorem best_ofSegments (hp : s ∈ added segments intent) (ht : t ∈ segments)
    (hid : t.id ∉ (ofSegments segments intent).picks.map (·.id)) :
    s.Outranks segments intent t := by
  rw [mem_ids_picks, not_or] at hid
  obtain ⟨front, back, hsplit⟩ := List.append_of_mem hp
  rw [hsplit, List.map_append, List.map_cons, List.mem_append, List.mem_cons, not_or, not_or] at hid
  exact outranks_of_added hsplit ht hid.1 hid.2.1 hid.2.2.1

/-- Segments that are picked for their score are picked in the order of the ranking. -/
theorem outranks_last {front : List (Segment Rat)} (h : added segments intent = front ++ [t])
    (hs : s ∈ front) : s.Outranks segments intent t := by
  have hnodup := nodup_added segments intent
  have ht : t ∈ added segments intent := by simp [h]
  obtain ⟨early, late, rfl⟩ := List.append_of_mem hs
  rw [List.append_assoc, List.cons_append] at h
  rw [h, List.map_append, List.map_cons, List.map_append, List.map_singleton, List.nodup_append,
    List.nodup_cons] at hnodup
  obtain ⟨-, ⟨hlate, -⟩, hearly⟩ := hnodup
  refine outranks_of_added h (mem_of_mem_added ht) (not_isAnchor_of_mem_added ht) ?_ ?_
  · exact fun hmem => hearly t.id hmem t.id (by simp) rfl
  · exact fun heq => hlate (by simp [heq])

theorem total_ofSegments (segments : List (Segment Rat)) (intent : Intent Rat) :
    (ofSegments segments intent).total =
      Scalar.sum ((anchors segments intent).map (·.duration)) +
        ((added segments intent).map (·.duration)).sum := by
  have htotal : (ofSegments segments intent).total =
      ((ofSegments segments intent).picks.map (·.duration)).sum := Rational.sum_eq _
  rw [htotal, ((picks_perm segments intent).map _).sum_eq, chosen, List.map_append,
    List.sum_append, List.map_map, Rational.sum_eq]
  rfl

/-- Without the last segment that is picked for its score, the target is missed. -/
theorem total_sub_lt {front : List (Segment Rat)} (h : added segments intent = front ++ [s]) :
    (ofSegments segments intent).total - s.duration < (ofSegments segments intent).target := by
  have hmissed := lt_of_untilMet_eq_concat h
  rw [total_ofSegments, h, List.map_append, List.sum_append, List.map_singleton,
    List.sum_singleton, ← add_assoc, add_sub_cancel_right]
  exact hmissed

theorem target_le_total_or (segments : List (Segment Rat)) (intent : Intent Rat) :
    (ofSegments segments intent).target ≤ (ofSegments segments intent).total ∨
      ∀ s ∈ segments, s.id ∈ (ofSegments segments intent).picks.map (·.id) := by
  have hstop := untilMet_eq_or_le (ofSegments segments intent).target
    (Scalar.sum ((anchors segments intent).map (·.duration)))
    (fresh ((anchors segments intent).map (·.id)) (ranked segments intent))
  rcases hstop with hall | hmet
  · refine Or.inr fun s hs => ?_
    rw [mem_ids_picks, ← mem_ids_anchors, added, hall]
    exact mem_ids_or_fresh ((ranked_perm segments intent).mem_iff.mpr hs)
  · rw [total_ofSegments]
    exact Or.inl hmet

/-- Choosing takes the anchors, and then the best of the ranking until the target is met. -/
theorem isGreedy_ofSegments (segments : List (Segment Rat)) (intent : Intent Rat) :
    IsGreedy segments intent (ofSegments segments intent) where
  target_eq := target_ofSegments segments intent
  total_eq := Rational.sum_eq _
  ordered := by
    rw [picks_eq]
    exact (List.pairwise_mergeSort precedes_start_trans precedes_start_total _).imp
      of_decide_eq_true
  copied p hp := by
    rw [(picks_perm segments intent).mem_iff, chosen, List.mem_append] at hp
    rcases hp with hp | hp
    · exact mem_of_mem_anchors hp
    · obtain ⟨s, hs, rfl⟩ := List.mem_map.mp hp
      exact mem_of_mem_added hs
  distinct := nodup_ids_picks segments intent
  anchored id h := mem_ids_picks.mpr (Or.inl h)
  best p hp hanchor s hs hid := best_ofSegments ((mem_added_iff hp).mpr hanchor) hs hid
  needed := by
    rintro ⟨p, hp, hanchor⟩
    rcases List.eq_nil_or_concat' (added segments intent) with hnil | ⟨front, t, hlast⟩
    · have hmem := (mem_added_iff hp).mpr hanchor
      rw [hnil] at hmem
      cases hmem
    · have ht : t ∈ added segments intent := by simp [hlast]
      obtain ⟨last, hpick, rfl⟩ := exists_pick_of_mem_added ht
      refine ⟨last, hpick, not_isAnchor_of_mem_added ht, ?_, total_sub_lt hlast⟩
      intro q hq hother hne
      have hmem := (mem_added_iff hq).mpr hother
      rw [hlast, List.mem_append, List.mem_singleton] at hmem
      rcases hmem with hmem | hsame
      · exact outranks_last hlast hmem
      · exact absurd (List.inj_on_of_nodup_map (nodup_ids_picks segments intent) hq hpick
          (congrArg (·.id) hsame)) hne
  enough := target_le_total_or segments intent

end Exact

end Montage.Selection

/-! What a selection loses when its target is lowered. Anchors and ranking do not depend on the
target, so that a lower target only ends the same choice earlier, and targets that no media can
exceed are all one. -/
namespace Montage

/-- The same wishes with another target. -/
def Intent.aiming {α : Type} (intent : Intent α) (target : α) : Intent α :=
  { intent with target := target }

theorem foldl_max_between {a b : Rat} {xs : List Rat} (h : a ≤ b) (hxs : ∀ x ∈ xs, x ≤ b) :
    a ≤ xs.foldl max a ∧ xs.foldl max a ≤ b := by
  induction xs generalizing a with
  | nil => exact ⟨le_refl a, h⟩
  | cons x xs ih =>
    obtain ⟨hlow, hhigh⟩ := ih (max_le h (hxs x List.mem_cons_self))
      fun y hy => hxs y (List.mem_cons_of_mem x hy)
    exact ⟨le_trans (le_max_left a x) hlow, hhigh⟩

namespace Selection

variable {segments : List (Segment Rat)} {intent : Intent Rat} {low high target : Rat}

theorem target_mono (h : low ≤ high) :
    (ofSegments segments (intent.aiming low)).target ≤
      (ofSegments segments (intent.aiming high)).target := by
  rw [target_ofSegments, target_ofSegments]
  exact max_le_max_right 0 (min_le_min_right _ h)

/-- A target past the end of the media is brought back to it. -/
theorem target_of_stops_le (h : ∀ s ∈ segments, s.span.stop ≤ target) :
    (ofSegments segments (intent.aiming target)).target =
      (segments.map (·.span.stop)).foldl max 0 := by
  have hstops : ∀ t ∈ segments.map (·.span.stop), t ≤ max target 0 := by
    intro t ht
    obtain ⟨s, hs, rfl⟩ := List.mem_map.mp ht
    exact le_max_of_le_left (h s hs)
  obtain ⟨hzero, hend⟩ := foldl_max_between (le_max_right target 0) hstops
  rw [target_ofSegments, max_min_distrib_right, max_eq_left hzero]
  exact min_eq_right hend

theorem added_prefix_of_le (h : low ≤ high) :
    added segments (intent.aiming low) <+: added segments (intent.aiming high) :=
  untilMet_prefix_of_le (target_mono h) _ _

/-- The target is all that choosing reads of what was aimed at. -/
theorem ofSegments_congr
    (h : (ofSegments segments (intent.aiming low)).target =
      (ofSegments segments (intent.aiming high)).target) :
    ofSegments segments (intent.aiming low) = ofSegments segments (intent.aiming high) := by
  have hpicks : (ofSegments segments (intent.aiming low)).picks =
      (ofSegments segments (intent.aiming high)).picks := by
    rw [picks_eq, picks_eq, chosen, chosen, added, added, h]
    rfl
  have hparts (target : Rat) : ofSegments segments (intent.aiming target) =
      ⟨(ofSegments segments (intent.aiming target)).picks,
        Scalar.sum ((ofSegments segments (intent.aiming target)).picks.map (·.duration)),
        (ofSegments segments (intent.aiming target)).target⟩ := rfl
  rw [hparts low, hparts high, hpicks, h]

/-- A higher target keeps what a lower one picks, for the same reasons and in the same order, and no
target past the end of the media picks anything else than another. -/
theorem ofSegments_aiming (segments : List (Segment Rat)) (intent : Intent Rat) (low high : Rat) :
    (low ≤ high →
      (ofSegments segments (intent.aiming low)).picks.Sublist
        (ofSegments segments (intent.aiming high)).picks) ∧
    ((∀ s ∈ segments, s.span.stop ≤ low) → (∀ s ∈ segments, s.span.stop ≤ high) →
      ofSegments segments (intent.aiming low) = ofSegments segments (intent.aiming high)) := by
  constructor
  · intro h
    rw [picks_eq, picks_eq]
    refine sublist_mergeSort_of_sublist precedes_start_trans precedes_start_total ?_
    exact (((added_prefix_of_le h).sublist.map _).append_left _)
  · intro hlow hhigh
    exact ofSegments_congr ((target_of_stops_le hlow).trans (target_of_stops_le hhigh).symm)

/-- Of three segments, a target of 5 takes one and a target of 12 two, and both 15 and 20 are past
the end. -/
theorem ofSegments_aiming_twelve :
    let segments : List (Segment Rat) := [.new ⟨0, 5⟩ 0.9 .none, .new ⟨5, 10⟩ 0.2 .none,
      .new ⟨10, 15⟩ 0.5 .none]
    let intent : Intent Rat := .default
    (5 : Rat) ≤ 12 ∧
      (ofSegments segments (intent.aiming 5)).picks.Sublist
        (ofSegments segments (intent.aiming 12)).picks ∧
      (∀ s ∈ segments, s.span.stop ≤ 15) ∧ (∀ s ∈ segments, s.span.stop ≤ 20) ∧
      ofSegments segments (intent.aiming 15) = ofSegments segments (intent.aiming 20) := by
  intro segments intent
  have hle : (5 : Rat) ≤ 12 := by decide +kernel
  have hfirst : ∀ s ∈ segments, s.span.stop ≤ 15 := by decide +kernel
  have hsecond : ∀ s ∈ segments, s.span.stop ≤ 20 := by decide +kernel
  exact ⟨hle, (ofSegments_aiming segments intent 5 12).1 hle, hfirst, hsecond,
    (ofSegments_aiming segments intent 15 20).2 hfirst hsecond⟩

end Selection

end Montage
