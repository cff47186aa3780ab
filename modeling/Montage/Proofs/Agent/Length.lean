import Montage.Agent.Reply
import Montage.Proofs.Number.Binary64

/-! How long the media of a reply is. A reply that brings no segments is read together with those
that the agent was given, and its length is meant to be the same either way: the known one, or else
where the last segment or edit ends. -/
namespace Montage

/-! ### The largest of some values -/

/-- The largest of some values. Those that are not numbers do not count. -/
structure Scalar.Largest {α : Type} [Scalar α] (m : α) (xs : List α) : Prop where
  mem : m ∈ xs
  upper : ∀ x ∈ xs, x ≤ x → x ≤ m

namespace Binary64

variable {x y m : Binary64} {xs ys : List Binary64}

theorem le_of_le_self (hx : x ≤ x) (hy : y ≤ y) (h : ¬ y < x) : x ≤ y := by
  obtain ⟨a, -, ha, -, -⟩ := le_iff.mp hx
  obtain ⟨b, -, hb, -, -⟩ := le_iff.mp hy
  rw [lt_iff_of_position hb ha] at h
  exact (le_iff_of_position ha hb).mpr (by omega)

theorem max_cases (hx : x ≤ x) :
    Scalar.max x y = x ∧ (y ≤ y → y ≤ x) ∨ Scalar.max x y = y ∧ x ≤ y := by
  by_cases hy : y ≤ y
  · by_cases hlt : y < x
    · exact Or.inl ⟨by simp [Scalar.max, hx, hlt], fun _ => Scalar.le_of_lt hlt⟩
    · exact Or.inr ⟨by simp [Scalar.max, hx, hy, hlt], le_of_le_self hx hy hlt⟩
  · exact Or.inl ⟨by simp [Scalar.max, hx, hy], fun h => (hy h).elim⟩

theorem largest_max (h : Scalar.Largest m xs) (hm : m ≤ m) :
    Scalar.Largest (Scalar.max m y) (xs ++ [y]) ∧ Scalar.max m y ≤ Scalar.max m y := by
  rcases max_cases (y := y) hm with ⟨heq, hy⟩ | ⟨heq, hle⟩
  · rw [heq]
    refine ⟨⟨List.mem_append_left _ h.mem, ?_⟩, hm⟩
    intro x hx hself
    rcases List.mem_append.mp hx with hx | hx
    · exact h.upper x hx hself
    · rw [List.mem_singleton.mp hx] at hself ⊢
      exact hy hself
  · rw [heq]
    have hy : y ≤ y := LawfulScalar.le_self_right hle
    refine ⟨⟨List.mem_append_right _ (List.mem_singleton_self y), ?_⟩, hy⟩
    intro x hx hself
    rcases List.mem_append.mp hx with hx | hx
    · exact LawfulScalar.le_trans (h.upper x hx hself) hle
    · rw [List.mem_singleton.mp hx]
      exact hy

theorem largest_maximum (h : Scalar.Largest m xs) (hm : m ≤ m) (ys : List Binary64) :
    Scalar.Largest (Scalar.maximum m ys) (xs ++ ys) := by
  induction ys generalizing m xs with
  | nil =>
    rw [List.append_nil]
    exact h
  | cons y ys ih =>
    obtain ⟨hmax, hself⟩ := largest_max (y := y) h hm
    have hrest := ih hmax hself
    rw [List.append_assoc] at hrest
    exact hrest

theorem largest_zero : Scalar.Largest (0 : Binary64) [0] where
  mem := List.mem_singleton_self 0
  upper x hx hself := by
    rw [List.mem_singleton.mp hx]
    exact Scalar.zero_le_zero

/-- Which values there are decides, and not their order. -/
theorem largest_congr (h : Scalar.Largest m xs) (hxs : ∀ x, x ∈ xs ↔ x ∈ ys) :
    Scalar.Largest m ys :=
  ⟨(hxs m).mp h.mem, fun x hx => h.upper x ((hxs x).mpr hx)⟩

theorem eq_infinite_of_not_isFinite (hpos : 0 < x) (h : ¬ Scalar.isFinite x = true) :
    x = infinite false := by
  cases x with
  | nan s =>
    obtain ⟨-, b, -, hb, -⟩ := lt_iff.mp hpos
    cases hb
  | infinite s =>
    cases s with
    | false => rfl
    | true =>
      have hneg := (lt_iff_of_position position_zero (position_infinite true)).mp hpos
      rw [signed_true] at hneg
      omega
  | finite s n hn => exact (h rfl).elim

theorem zero_lt_infinite : 0 < infinite false := by
  have hlimit := one_lt_limit
  refine lt_of_position position_zero (position_infinite false) ?_
  rw [signed_false]
  omega

/-- Nothing is larger than positive infinity, so it is the largest only where it is listed. -/
theorem largest_infinite_iff : Scalar.Largest (infinite false) xs ↔ infinite false ∈ xs := by
  refine ⟨Scalar.Largest.mem, fun hmem => ⟨hmem, fun x hx hself => ?_⟩⟩
  obtain ⟨a, -, ha, -, -⟩ := le_iff.mp hself
  exact (le_iff_of_position ha rfl).mpr (position_le_limit ha).2

theorem isFinite_zero : Scalar.isFinite (0 : Binary64) = true := by
  have hlimit := one_lt_limit
  exact isFinite_iff.mpr ⟨0, position_zero, by omega, by omega⟩

end Binary64

/-! ### The length of a reply's media -/

namespace Reply

/-- Where the segments and the edits of a reply end. -/
def ends {α : Type} (r : Reply α) : List α :=
  r.features.segments.map (·.span.stop) ++ r.edits.filterMap fun e => e.span?.map (·.stop)

/-- The length is the one that was given, if that can be a length, and else the largest of zero
and the ends. -/
def IsMeasured (duration : Binary64) (r : Reply Binary64) : Prop :=
  if Scalar.isFinite duration ∧ 0 < duration then r.mediaDuration = duration
  else Scalar.Largest r.mediaDuration (0 :: r.ends)

theorem isFinite_of_isMeasured {duration : Binary64} {r : Reply Binary64}
    (h : r.IsMeasured duration) (hends : ∀ e ∈ r.ends, Scalar.isFinite e = true) :
    Scalar.isFinite r.mediaDuration = true := by
  unfold IsMeasured at h
  split at h
  · rename_i hknown
    rw [h]
    exact hknown.1
  · rcases List.mem_cons.mp h.mem with hzero | hend
    · rw [hzero]
      exact Binary64.isFinite_zero
    · exact hends _ hend

/-- A reply over other segments. -/
def withSegments (r : Reply Binary64) (segments : List (Segment Binary64)) (length : Binary64) :
    Reply Binary64 :=
  { r with features := .ofSegments length segments }

@[simp] theorem mediaDuration_withSegments (r : Reply Binary64)
    (segments : List (Segment Binary64)) (length : Binary64) :
    (r.withSegments segments length).mediaDuration = length := rfl

theorem mem_ends_withSegments {r : Reply Binary64} (h : r.features.segments = [])
    (segments : List (Segment Binary64)) (length x : Binary64) :
    x ∈ (r.withSegments segments length).ends ↔
      x ∈ segments.map (·.span.stop) ∨ x ∈ r.ends := by
  unfold ends
  rw [h]
  exact List.mem_append

/-- What a request makes of a reply to it: the segments may be those that the agent was given, and
all else that is known of the media follows the segments. -/
structure Completes (made : Reply Binary64) (request : Request Binary64) (read : Reply Binary64) :
    Prop where
  events : made.events = read.events
  edits : made.edits = read.edits
  summary : made.summary = read.summary
  steps : made.steps = read.steps
  segments : made.features.segments =
    if read.features.segments = [] then request.existing else read.features.segments
  features : made.features = .ofSegments made.mediaDuration made.features.segments

end Reply

namespace Agent

variable {text : String} {duration : Binary64} {read : Reply Binary64}

/-- The segments of a reply that can be used. -/
def segmentsOf (payload : Json) : List (Segment Binary64) :=
  (listField "segments" payload).filterMap segment?

theorem of_reply? (h : reply? text duration = some read) :
    (payload? text).map segmentsOf = some read.features.segments ∧
      read.features = .ofSegments read.mediaDuration read.features.segments ∧
      read.mediaDuration =
        if Scalar.isFinite duration ∧ 0 < duration then duration
        else lastEnd read.features.segments read.edits := by
  unfold reply? at h
  simp only [Option.bind_eq_bind, Option.bind_eq_some_iff] at h
  obtain ⟨payload, hpayload, h⟩ := h
  split at h
  · cases h
  · cases h
    exact ⟨congrArg (Option.map segmentsOf) hpayload, rfl, rfl⟩

theorem largest_lastEnd (r : Reply Binary64) :
    Scalar.Largest (lastEnd r.features.segments r.edits) (0 :: r.ends) :=
  Binary64.largest_maximum Binary64.largest_zero Scalar.zero_le_zero r.ends

theorem isMeasured_of_reply? (h : reply? text duration = some read) :
    read.IsMeasured duration := by
  obtain ⟨-, -, hlength⟩ := of_reply? h
  unfold Reply.IsMeasured
  split
  · rename_i hknown
    rw [hlength, if_pos hknown]
  · rename_i hunknown
    rw [hlength, if_neg hunknown]
    exact largest_lastEnd read

end Agent

namespace Request

variable {request : Request Binary64} {text : String} {read made : Reply Binary64}

/-- The request takes a length without an end for a known one. -/
def Overruns (request : Request Binary64) (read made : Reply Binary64) : Prop :=
  request.duration = .infinite false ∧ read.features.segments = [] ∧ request.existing ≠ [] ∧
    .infinite false ∉ made.ends

theorem reply?_eq_none_iff :
    request.reply? text = none ↔ Agent.reply? text request.duration = none := by
  rw [reply?, Option.map_eq_none_iff]

/-- With segments of its own, or none to fall back on, a reply is taken as it was read. -/
theorem reply?_of_own (hread : Agent.reply? text request.duration = some read)
    (h : read.features.segments ≠ [] ∨ request.existing = []) :
    request.reply? text = some read := by
  rw [reply?, hread, Option.map_some, if_neg]
  simpa [or_iff_not_imp_left] using h

/-- A reply without segments gets those that the agent was given. -/
theorem reply?_of_existing (hread : Agent.reply? text request.duration = some read)
    (hnone : read.features.segments = []) (hexisting : request.existing ≠ []) :
    request.reply? text = some (read.withSegments request.existing
      (if 0 < request.duration then request.duration
        else Scalar.maximum read.mediaDuration (request.existing.map (·.span.stop)))) := by
  have hlacks : read.features.segments.isEmpty = true ∧ ¬ request.existing.isEmpty = true := by
    simpa [hnone] using hexisting
  rw [reply?, hread, Option.map_some, if_pos hlacks]
  rfl

theorem completes_of_own (hread : Agent.reply? text request.duration = some read)
    (h : read.features.segments ≠ [] ∨ request.existing = []) :
    read.Completes request read where
  events := rfl
  edits := rfl
  summary := rfl
  steps := rfl
  segments := by
    split
    · rename_i hnone
      rw [hnone, h.resolve_left fun hsome => hsome hnone]
    · rfl
  features := (Agent.of_reply? hread).2.1

/-- The ends of the segments that the agent was given come last in one length and first in the
other. -/
theorem largest_existing (hread : Agent.reply? text request.duration = some read)
    (hnone : read.features.segments = [])
    (hunknown : ¬ (Scalar.isFinite request.duration ∧ 0 < request.duration))
    (length : Binary64) :
    Scalar.Largest (Scalar.maximum read.mediaDuration (request.existing.map (·.span.stop)))
      (0 :: (read.withSegments request.existing length).ends) := by
  have hlast : Scalar.Largest read.mediaDuration (0 :: read.ends) := by
    have hmeasured := Agent.isMeasured_of_reply? hread
    rwa [Reply.IsMeasured, if_neg hunknown] at hmeasured
  have hself : read.mediaDuration ≤ read.mediaDuration :=
    LawfulScalar.le_self_right (hlast.upper 0 List.mem_cons_self Scalar.zero_le_zero)
  refine Binary64.largest_congr (Binary64.largest_maximum hlast hself _) fun x => ?_
  rw [List.mem_append, List.mem_cons, List.mem_cons, Reply.mem_ends_withSegments hnone, or_assoc,
    or_comm (a := x ∈ read.ends)]

theorem completes_of_existing (hnone : read.features.segments = []) (length : Binary64) :
    (read.withSegments request.existing length).Completes request read where
  events := rfl
  edits := rfl
  summary := rfl
  steps := rfl
  segments := (if_pos hnone).symm
  features := rfl

/-- Of the lengths that count as unknown only the one without an end is larger than zero. -/
theorem isMeasured_of_existing_iff (hread : Agent.reply? text request.duration = some read)
    (hnone : read.features.segments = []) (hexisting : request.existing ≠ []) :
    let made := read.withSegments request.existing
      (if 0 < request.duration then request.duration
        else Scalar.maximum read.mediaDuration (request.existing.map (·.span.stop)))
    made.IsMeasured request.duration ↔ ¬ request.Overruns read made := by
  intro made
  by_cases hknown : Scalar.isFinite request.duration = true ∧ 0 < request.duration
  · have hlength : made.mediaDuration = request.duration := by
      rw [Reply.mediaDuration_withSegments, if_pos hknown.2]
    have hmeasured : made.IsMeasured request.duration := by
      rw [Reply.IsMeasured, if_pos hknown]
      exact hlength
    have hends : ¬ request.Overruns read made := by
      rintro ⟨hinfinite, -⟩
      rw [hinfinite] at hknown
      cases hknown.1
    exact iff_of_true hmeasured hends
  · rw [Reply.IsMeasured, if_neg hknown]
    by_cases hpos : 0 < request.duration
    · have hinfinite : request.duration = .infinite false :=
        Binary64.eq_infinite_of_not_isFinite hpos fun hfinite => hknown ⟨hfinite, hpos⟩
      have hlength : made.mediaDuration = .infinite false := by
        rw [Reply.mediaDuration_withSegments, if_pos hpos, hinfinite]
      have hzero : Binary64.infinite false ≠ 0 := by
        intro hzero
        rw [hinfinite, hzero] at hpos
        exact Scalar.lt_irrefl 0 hpos
      rw [hlength, Binary64.largest_infinite_iff, List.mem_cons, or_iff_right hzero]
      simp [Overruns, hinfinite, hnone, hexisting]
    · have hlength : made.mediaDuration =
          Scalar.maximum read.mediaDuration (request.existing.map (·.span.stop)) := by
        rw [Reply.mediaDuration_withSegments, if_neg hpos]
      have hends : ¬ request.Overruns read made := by
        rintro ⟨hinfinite, -⟩
        rw [hinfinite] at hpos
        exact hpos Binary64.zero_lt_infinite
      rw [hlength]
      exact iff_of_true (largest_existing hread hnone hknown _) hends

/-- A request takes a reply exactly when it can be read, and changes nothing of it but for the
segments that it lacks. The media is measured alike on both ways, but for a length without an end
that a reply without segments meets. -/
theorem reply?_measured (request : Request Binary64) (text : String) :
    (request.reply? text = none ↔ Agent.reply? text request.duration = none) ∧
      ∀ made, request.reply? text = some made →
        ∃ read, Agent.reply? text request.duration = some read ∧
          (Agent.payload? text).map Agent.segmentsOf = some read.features.segments ∧
          made.Completes request read ∧
          (made.IsMeasured request.duration ↔ ¬ request.Overruns read made) ∧
          (made.IsMeasured request.duration → (∀ e ∈ made.ends, Scalar.isFinite e = true) →
            Scalar.isFinite made.mediaDuration = true) := by
  refine ⟨reply?_eq_none_iff, fun made hmade => ?_⟩
  obtain ⟨read, hread, -⟩ := Option.map_eq_some_iff.mp hmade
  refine ⟨read, hread, (Agent.of_reply? hread).1, ?_⟩
  by_cases hown : read.features.segments ≠ [] ∨ request.existing = []
  · obtain rfl : read = made := Option.some.inj ((reply?_of_own hread hown).symm.trans hmade)
    refine ⟨completes_of_own hread hown, ?_, Reply.isFinite_of_isMeasured⟩
    have hends : ¬ request.Overruns read read := by
      rintro ⟨-, hnone, hexisting, -⟩
      exact hown.elim (fun hsome => hsome hnone) hexisting
    exact iff_of_true (Agent.isMeasured_of_reply? hread) hends
  · obtain ⟨hnone, hexisting⟩ : read.features.segments = [] ∧ request.existing ≠ [] := by
      simpa using hown
    obtain rfl := Option.some.inj ((reply?_of_existing hread hnone hexisting).symm.trans hmade)
    exact ⟨completes_of_existing hnone _, isMeasured_of_existing_iff hread hnone hexisting,
      Reply.isFinite_of_isMeasured⟩

/-- Edits alone, on media of unknown length. -/
theorem reply?_measured_of_edits :
    let request : Request Binary64 :=
      ⟨0, [.new ⟨0, 6⟩ 0.4 Tags.none, .new ⟨6, 12⟩ 0.8 Tags.none]⟩
    let text := "\x7b\"edits\": [\x7b\"type\": \"delete\", \"start\": 2, \"end\": 14\x7d]\x7d"
    ∃ made, request.reply? text = some made ∧ made.mediaDuration = 14 ∧
      (∀ e ∈ made.ends, Scalar.isFinite e = true) ∧ made.IsMeasured request.duration ∧
      Scalar.isFinite made.mediaDuration = true := by
  intro request text
  have hreply : ∃ made ∈ request.reply? text, made.mediaDuration = 14 ∧
      ∀ e ∈ made.ends, Scalar.isFinite e = true := by
    decide +kernel
  obtain ⟨made, hmem, hlength, hends⟩ := hreply
  have hmade : request.reply? text = some made := Option.mem_def.mp hmem
  obtain ⟨read, -, -, -, hmeasured, hfinite⟩ := (reply?_measured request text).2 made hmade
  have hknown : ¬ request.Overruns read made := by
    rintro ⟨hinfinite, -⟩
    have hzero : Scalar.isFinite request.duration = true := Binary64.isFinite_zero
    rw [hinfinite] at hzero
    cases hzero
  clear_value request
  exact ⟨made, hmade, hlength, hends, hmeasured.mpr hknown, hfinite (hmeasured.mpr hknown) hends⟩

/-- The same edits on media that is said to have no end: all that the reply holds ends, and its
media does not. -/
theorem exists_overrun :
    let request : Request Binary64 :=
      ⟨.infinite false, [.new ⟨0, 6⟩ 0.4 Tags.none, .new ⟨6, 12⟩ 0.8 Tags.none]⟩
    let text := "\x7b\"edits\": [\x7b\"type\": \"delete\", \"start\": 2, \"end\": 4\x7d]\x7d"
    ∃ made, request.reply? text = some made ∧ (∀ e ∈ made.ends, Scalar.isFinite e = true) ∧
      made.mediaDuration = .infinite false ∧ ¬ made.IsMeasured request.duration := by
  intro request text
  have hreply : ∃ made ∈ request.reply? text, made.mediaDuration = .infinite false ∧
      ∀ e ∈ made.ends, Scalar.isFinite e = true := by
    decide +kernel
  obtain ⟨made, hmem, hlength, hends⟩ := hreply
  have hmade : request.reply? text = some made := Option.mem_def.mp hmem
  refine ⟨made, hmade, hends, hlength, fun hmeasured => ?_⟩
  have hfinite := Reply.isFinite_of_isMeasured hmeasured hends
  rw [hlength] at hfinite
  cases hfinite

end Request

end Montage
