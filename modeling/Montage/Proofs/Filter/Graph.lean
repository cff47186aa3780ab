import Montage.Filter.Graph
import Montage.Plan.Basic
import Montage.Proofs.Filter.Wiring

/-! Which stage makes what another reads. A label may be made many times over; it is read from the
last stage before the reader that makes it. -/
namespace Montage.Stage

variable {φ : Type} {stages before after : List (Stage φ)} {s : Stage φ} {label : String}
  {index source target : Nat}

/-- The labels that a stage makes, by its number. -/
def madeAt (stages : List (Stage φ)) (index : Nat) : List String :=
  (stages[index]?.map (·.outputs)).getD []

/-- The labels that a stage reads, by its number. -/
def readAt (stages : List (Stage φ)) (index : Nat) : List String :=
  (stages[index]?.map (·.inputs)).getD []

/-- Of the stages before the target, the source is the last that makes the label. -/
structure LastMaker (stages : List (Stage φ)) (label : String) (source target : Nat) : Prop where
  before : source < target
  makes : label ∈ madeAt stages source
  unshadowed : ∀ between < target, source < between → label ∉ madeAt stages between

instance (stages : List (Stage φ)) (label : String) (source target : Nat) :
    Decidable (LastMaker stages label source target) :=
  decidable_of_iff (source < target ∧ label ∈ madeAt stages source ∧
      ∀ between < target, source < between → label ∉ madeAt stages between)
    ⟨fun h => ⟨h.1, h.2.1, h.2.2⟩, fun h => ⟨h.before, h.makes, h.unshadowed⟩⟩

theorem madeAt_append (h : index < before.length) :
    madeAt (before ++ after) index = madeAt before index := by
  rw [madeAt, madeAt, List.getElem?_append_left h]

theorem readAt_append (h : index < before.length) :
    readAt (before ++ after) index = readAt before index := by
  rw [readAt, readAt, List.getElem?_append_left h]

@[simp] theorem madeAt_length (before : List (Stage φ)) (s : Stage φ) :
    madeAt (before ++ [s]) before.length = s.outputs := by
  simp [madeAt]

@[simp] theorem readAt_length (before : List (Stage φ)) (s : Stage φ) :
    readAt (before ++ [s]) before.length = s.inputs := by
  simp [readAt]

theorem readAt_of_length_le (h : stages.length ≤ index) : readAt stages index = [] := by
  rw [readAt, List.getElem?_eq_none h]
  rfl

theorem mem_madeAt : label ∈ madeAt stages index ↔
    ∃ s, stages[index]? = some s ∧ label ∈ s.outputs := by
  unfold madeAt
  cases stages[index]? <;> simp

theorem mem_readAt : label ∈ readAt stages index ↔
    ∃ s, stages[index]? = some s ∧ label ∈ s.inputs := by
  unfold readAt
  cases stages[index]? <;> simp

/-- Stages from the target on do not matter. -/
theorem lastMaker_append (h : target ≤ before.length) :
    LastMaker (before ++ after) label source target ↔ LastMaker before label source target := by
  constructor
  · rintro ⟨hbefore, hmakes, hunshadowed⟩
    rw [madeAt_append (lt_of_lt_of_le hbefore h)] at hmakes
    refine ⟨hbefore, hmakes, fun between hbetween hsource => ?_⟩
    have hsame : madeAt (before ++ after) between = madeAt before between :=
      madeAt_append (lt_of_lt_of_le hbetween h)
    exact hsame ▸ hunshadowed between hbetween hsource
  · rintro ⟨hbefore, hmakes, hunshadowed⟩
    refine ⟨hbefore, ?_, fun between hbetween hsource => ?_⟩
    · rwa [madeAt_append (lt_of_lt_of_le hbefore h)]
    · rw [madeAt_append (lt_of_lt_of_le hbetween h)]
      exact hunshadowed between hbetween hsource

/-- A stage that makes the label is its last maker from then on. -/
theorem lastMaker_of_mem (h : label ∈ s.outputs) :
    LastMaker (before ++ [s]) label source (before.length + 1) ↔ source = before.length := by
  constructor
  · rintro ⟨hbefore, -, hunshadowed⟩
    by_contra hne
    have hlast := hunshadowed before.length (Nat.lt_succ_self _) (by omega)
    rw [madeAt_length] at hlast
    exact hlast h
  · rintro rfl
    refine ⟨Nat.lt_succ_self _, by rwa [madeAt_length], fun between hbetween hsource => ?_⟩
    omega

/-- A stage that does not make the label leaves its last maker as it was. -/
theorem lastMaker_of_notMem (h : label ∉ s.outputs) :
    LastMaker (before ++ [s]) label source (before.length + 1) ↔
      LastMaker (before ++ [s]) label source before.length := by
  constructor
  · rintro ⟨hbefore, hmakes, hunshadowed⟩
    have hne : source ≠ before.length := by
      rintro rfl
      rw [madeAt_length] at hmakes
      exact h hmakes
    exact ⟨by omega, hmakes, fun between hbetween => hunshadowed between (by omega)⟩
  · rintro ⟨hbefore, hmakes, hunshadowed⟩
    refine ⟨by omega, hmakes, fun between hbetween hsource => ?_⟩
    rcases Nat.lt_succ_iff_lt_or_eq.mp hbetween with hlt | rfl
    · exact hunshadowed between hlt hsource
    · rwa [madeAt_length]

end Montage.Stage

/-! Graphs made stage by stage. The links are the wiring: one from the last maker of a label for each
time that a stage reads it. Every link runs forward, so there is no cycle, and the pads of a
well-wired chain that no link carries on are its ends. -/
namespace Montage.Graph

/-- Some link runs from one stage to the other. -/
def Feeds {φ : Type} (g : Graph φ) (source target : Nat) : Prop :=
  ∃ label, ⟨source, target, label⟩ ∈ g.links

variable {φ : Type} {s : Stage φ} {stages : List (Stage φ)} {g : Graph φ} {link : Link}
  {External : String → Prop} {ends : List String} {label : String} {index source target : Nat}

@[simp] theorem ofStages_nil : ofStages ([] : List (Stage φ)) = empty := rfl

@[simp] theorem ofStages_append_singleton (stages : List (Stage φ)) (s : Stage φ) :
    ofStages (stages ++ [s]) = (ofStages stages).addStage s := by
  rw [ofStages, List.foldl_append]
  rfl

@[simp] theorem stages_ofStages (stages : List (Stage φ)) : (ofStages stages).stages = stages := by
  induction stages using List.reverseRecOn with
  | nil => rfl
  | append_singleton before s ih => rw [ofStages_append_singleton, addStage, ih]

/-! ### Makers -/

theorem lookup_foldl (outputs : List String) (makers : List (String × Nat)) (index : Nat) :
    (outputs.foldl (fun makers label => (label, index) :: makers) makers).lookup label =
      if label ∈ outputs then some index else makers.lookup label := by
  induction outputs generalizing makers with
  | nil => rfl
  | cons first rest ih =>
    rw [List.foldl_cons, ih, List.lookup_cons]
    by_cases hrest : label ∈ rest
    · simp [hrest]
    · by_cases hfirst : label = first
      · simp [hfirst]
      · simp [hrest, hfirst, beq_eq_false_iff_ne.mpr hfirst]

theorem lookup_makers_addStage (g : Graph φ) (s : Stage φ) :
    (g.addStage s).makers.lookup label =
      if label ∈ s.outputs then some g.stages.length else g.makers.lookup label :=
  lookup_foldl s.outputs g.makers g.stages.length

/-- What is noted as the maker of a label is the last stage that makes it. -/
theorem lookup_makers : (ofStages stages).makers.lookup label = some source ↔
    Stage.LastMaker stages label source stages.length := by
  induction stages using List.reverseRecOn with
  | nil => exact ⟨nofun, fun h => absurd h.before (Nat.not_lt_zero source)⟩
  | append_singleton before s ih =>
    rw [ofStages_append_singleton, lookup_makers_addStage, stages_ofStages, List.length_append,
      List.length_singleton]
    split
    · rename_i hmakes
      rw [Stage.lastMaker_of_mem hmakes, Option.some.injEq, eq_comm]
    · rename_i hother
      rw [ih, Stage.lastMaker_of_notMem hother, Stage.lastMaker_append (Nat.le_refl _)]

/-! ### Links -/

theorem wire_eq_some_iff {makers : List (String × Nat)} {input : String} :
    ((makers.lookup input).map fun maker => (⟨maker, index, input⟩ : Link)) =
        some ⟨source, target, label⟩ ↔
      input = label ∧ makers.lookup label = some source ∧ target = index := by
  simp only [Option.map_eq_some_iff, Link.mk.injEq]
  constructor
  · rintro ⟨maker, hmaker, rfl, rfl, rfl⟩
    exact ⟨rfl, hmaker, rfl⟩
  · rintro ⟨rfl, hmaker, rfl⟩
    exact ⟨source, hmaker, rfl, rfl, rfl⟩

/-- A stage is wired once for each time that it reads the label, and to its maker only. -/
theorem count_wires (makers : List (String × Nat)) (index : Nat) (inputs : List String) :
    (wires makers index inputs).count ⟨source, target, label⟩ =
      if makers.lookup label = some source ∧ target = index then inputs.count label else 0 := by
  rw [wires, List.count_filterMap]
  split
  · rename_i hmaker
    refine List.countP_congr fun input _ => ?_
    rw [beq_iff_eq, beq_iff_eq, wire_eq_some_iff]
    exact ⟨fun h => h.1, fun h => ⟨h, hmaker⟩⟩
  · rename_i hother
    refine List.countP_eq_zero.mpr fun input _ => ?_
    rw [beq_iff_eq, wire_eq_some_iff]
    exact fun h => hother h.2

/-- From stage to stage there is a link for each time that the target reads the label, if the source
is the last maker of it, and else none. -/
theorem count_links (stages : List (Stage φ)) (source target : Nat) (label : String) :
    (ofStages stages).links.count ⟨source, target, label⟩ =
      if Stage.LastMaker stages label source target then (Stage.readAt stages target).count label
      else 0 := by
  induction stages using List.reverseRecOn with
  | nil => simp [empty, Stage.readAt]
  | append_singleton before s ih =>
    rw [ofStages_append_singleton, addStage, List.count_append, ih, count_wires]
    simp only [lookup_makers, stages_ofStages]
    rcases Nat.lt_trichotomy target before.length with hlt | rfl | hgt
    · have hother : ¬ (Stage.LastMaker before label source before.length ∧
          target = before.length) := fun h => absurd h.2 (Nat.ne_of_lt hlt)
      rw [if_neg hother, Nat.add_zero, Stage.readAt_append hlt]
      simp only [Stage.lastMaker_append (Nat.le_of_lt hlt)]
    · rw [Stage.readAt_of_length_le (Nat.le_refl _), List.count_nil, ite_self, Nat.zero_add,
        Stage.readAt_length]
      simp only [Stage.lastMaker_append (Nat.le_refl _), and_true]
    · have hother : ¬ (Stage.LastMaker before label source before.length ∧
          target = before.length) := fun h => absurd h.2 (Nat.ne_of_gt hgt)
      have hpast : (before ++ [s]).length ≤ target := by simpa using hgt
      rw [if_neg hother, Stage.readAt_of_length_le (Nat.le_of_lt hgt),
        Stage.readAt_of_length_le hpast]
      simp

/-- A stage that reads what it makes itself is wired to the maker before it, once for each time. -/
example :
    let first : Stage Empty := ⟨[], [], ["a"]⟩
    let second : Stage Empty := ⟨["a", "a"], [], ["a"]⟩
    (ofStages [first, second]).links = [⟨0, 1, "a"⟩, ⟨0, 1, "a"⟩] := by
  decide

theorem mem_links : ⟨source, target, label⟩ ∈ (ofStages stages).links ↔
    Stage.LastMaker stages label source target ∧ label ∈ Stage.readAt stages target := by
  rw [← List.count_pos_iff, count_links, ← List.count_pos_iff]
  split
  · rename_i hmaker
    exact ⟨fun h => ⟨hmaker, h⟩, fun h => h.2⟩
  · rename_i hother
    exact ⟨fun h => absurd h (Nat.lt_irrefl 0), fun h => absurd h.1 hother⟩

theorem forward_of_mem_links (h : link ∈ (ofStages stages).links) :
    link.source < link.target :=
  (mem_links.mp h).1.before

theorem lt_of_transGen_feeds (h : Relation.TransGen (ofStages stages).Feeds source target) :
    source < target := by
  induction h with
  | single h =>
    obtain ⟨label, hlink⟩ := h
    exact forward_of_mem_links hlink
  | tail _ h ih =>
    obtain ⟨label, hlink⟩ := h
    exact Nat.lt_trans ih (forward_of_mem_links hlink)

/-- Where links run forward, each round takes away the first stage that is left. -/
theorem remaining_isEmpty {links : List Link} (hforward : ∀ l ∈ links, l.source < l.target)
    {rounds first : Nat} {alive : List Nat}
    (halive : ∀ i ∈ alive, first ≤ i ∧ i < first + rounds) :
    (remaining links rounds alive).isEmpty = true := by
  induction rounds generalizing first alive with
  | zero =>
    rw [remaining, List.isEmpty_iff]
    refine List.eq_nil_iff_forall_not_mem.mpr fun i hi => ?_
    have := halive i hi
    omega
  | succ rounds ih =>
    rw [remaining]
    split
    · rfl
    · have hafter : ∀ i ∈ reached links alive, first + 1 ≤ i ∧ i < first + 1 + rounds := by
        intro i hi
        obtain ⟨hi, hreached⟩ := List.mem_filter.mp hi
        obtain ⟨l, hl, htest⟩ := List.any_eq_true.mp hreached
        simp only [Bool.and_eq_true, decide_eq_true_eq, List.contains_iff_mem] at htest
        have hsource := halive l.source htest.2
        have hlt := hforward l hl
        have := halive i hi
        omega
      exact ih hafter

theorem isAcyclic_ofStages (stages : List (Stage φ)) : (ofStages stages).isAcyclic = true := by
  have halive : ∀ i ∈ List.range (ofStages stages).stages.length,
      0 ≤ i ∧ i < 0 + (ofStages stages).stages.length := by
    intro i hi
    have := List.mem_range.mp hi
    omega
  exact remaining_isEmpty (fun l hl => forward_of_mem_links hl) halive

theorem render_ofStages (print : φ → String) (stages : List (Stage φ)) :
    (ofStages stages).render print = ";".intercalate (stages.map (Stage.render print)) := by
  rw [render, stages_ofStages]

/-- No check on the graph fails. -/
theorem describe_ofStages (print : φ → String) (stages : List (Stage φ)) :
    (ofStages stages).describe print = .ok ((ofStages stages).render print) :=
  if_pos (isAcyclic_ofStages stages)

/-! ### Ends -/

/-- The links out of a stage carry what a later stage reads from it. -/
theorem mem_consumed : label ∈ (ofStages stages).consumed index ↔
    ∃ target, Stage.LastMaker stages label index target ∧ label ∈ Stage.readAt stages target := by
  simp only [consumed, List.mem_map, List.mem_filter, decide_eq_true_eq]
  constructor
  · rintro ⟨⟨source, target, label⟩, ⟨hlink, rfl⟩, rfl⟩
    exact ⟨target, mem_links.mp hlink⟩
  · rintro ⟨target, hread⟩
    exact ⟨⟨index, target, label⟩, ⟨mem_links.mpr hread, rfl⟩, rfl⟩

/-- The terminal pads are the outputs that no later stage reads from the stage that makes them. -/
theorem terminalPads_filter (stages : List (Stage φ)) :
    (ofStages stages).terminalPads = stages.zipIdx.flatMap fun (s, index) =>
      s.outputs.filter fun label => ∀ target < stages.length,
        ¬ (Stage.LastMaker stages label index target ∧ label ∈ Stage.readAt stages target) := by
  rw [terminalPads, stages_ofStages]
  refine List.flatMap_congr fun numbered _ => List.filter_congr fun label _ => ?_
  rw [Bool.eq_iff_iff, Bool.not_eq_true', ← Bool.not_eq_true, List.contains_iff_mem, mem_consumed,
    decide_eq_true_iff]
  constructor
  · exact fun h target _ hread => h ⟨target, hread⟩
  · rintro h ⟨target, hread⟩
    refine h target ?_ hread
    by_contra hpast
    rw [Stage.readAt_of_length_le (not_lt.mp hpast)] at hread
    exact absurd hread.2 List.not_mem_nil

/-- In a well-wired chain what is read anywhere is read from its only maker. -/
theorem lastMaker_of_wellWired (h : Stage.WellWired External ends stages)
    (hmakes : label ∈ Stage.madeAt stages source) (hread : label ∈ Stage.readAt stages target) :
    Stage.LastMaker stages label source target := by
  obtain ⟨s, hs, hlabel⟩ := Stage.mem_madeAt.mp hmakes
  obtain ⟨r, hr, hinput⟩ := Stage.mem_readAt.mp hread
  have honly : ∀ other, label ∈ Stage.madeAt stages other → other = source := by
    intro other hother
    obtain ⟨t, ht, hmade⟩ := Stage.mem_madeAt.mp hother
    exact Stage.index_unique h.made_nodup ht hmade hs hlabel
  have hinside : ¬ External label :=
    h.made_inside label (Stage.mem_made.mpr ⟨s, List.mem_of_getElem? hs, hlabel⟩)
  obtain ⟨hlt, rfl⟩ := List.getElem?_eq_some_iff.mp hr
  have hsplit : stages = stages.take target ++ stages[target] :: stages.drop (target + 1) := by
    rw [List.getElem_cons_drop, List.take_append_drop]
  obtain ⟨t, ht, hmade⟩ := Stage.mem_made.mp
    ((h.made_before _ _ _ hsplit label hinput).resolve_left hinside)
  obtain ⟨first, hfirst, rfl⟩ := List.getElem_of_mem ht
  have hbefore : first < target := lt_of_lt_of_le hfirst (List.length_take_le _ _)
  rw [List.getElem_take] at hmade
  obtain rfl := honly first (Stage.mem_madeAt.mpr
    ⟨_, List.getElem?_eq_getElem (hbefore.trans hlt), hmade⟩)
  refine ⟨hbefore, hmakes, fun between _ hafter hagain => ?_⟩
  exact absurd (honly between hagain) (Nat.ne_of_gt hafter)

/-- In a well-wired chain the links out of a stage carry those of its outputs that are read. -/
theorem mem_consumed_iff_read (h : Stage.WellWired External ends stages)
    (hs : stages[index]? = some s) (hlabel : label ∈ s.outputs) :
    label ∈ (ofStages stages).consumed index ↔ label ∈ Stage.read stages := by
  rw [mem_consumed]
  constructor
  · rintro ⟨target, -, hread⟩
    obtain ⟨r, hr, hinput⟩ := Stage.mem_readAt.mp hread
    exact Stage.mem_read.mpr ⟨r, List.mem_of_getElem? hr, hinput⟩
  · intro hread
    obtain ⟨r, hr, hinput⟩ := Stage.mem_read.mp hread
    obtain ⟨target, hlt, rfl⟩ := List.getElem_of_mem hr
    have hread : label ∈ Stage.readAt stages target :=
      Stage.mem_readAt.mpr ⟨_, List.getElem?_eq_getElem hlt, hinput⟩
    exact ⟨target, lastMaker_of_wellWired h (Stage.mem_madeAt.mpr ⟨s, hs, hlabel⟩) hread, hread⟩

theorem terminalPads_eq (h : Stage.WellWired External ends stages) :
    (ofStages stages).terminalPads =
      (Stage.made stages).filter (!(Stage.read stages).contains ·) := by
  have hmade : Stage.made stages = stages.zipIdx.flatMap fun numbered => numbered.1.outputs := by
    conv_lhs => rw [Stage.made, ← List.zipIdx_map_fst 0 stages, List.flatMap_map]
  rw [terminalPads, stages_ofStages, hmade, List.filter_flatMap]
  refine List.flatMap_congr fun numbered hs => List.filter_congr fun label hlabel => ?_
  have hiff := mem_consumed_iff_read h (List.mem_zipIdx_iff_getElem?.mp hs) hlabel
  rw [← List.contains_iff_mem, ← List.contains_iff_mem] at hiff
  rw [Bool.eq_iff_iff.mpr hiff]

/-- Made last, the ends are the terminal pads in their order. -/
theorem terminalPads_ofStages (h : Stage.WellWired External ends stages) {inner : List String}
    (hlast : Stage.made stages = inner ++ ends) : (ofStages stages).terminalPads = ends := by
  have hnodup := h.made_nodup
  rw [hlast] at hnodup
  have hinner : inner.filter (!(Stage.read stages).contains ·) = [] := by
    refine List.filter_eq_nil_iff.mpr fun label hlabel => ?_
    have hend : label ∉ ends := List.disjoint_of_nodup_append hnodup hlabel
    have honce := h.read_once label (by simp [hlast, hlabel]) hend
    have hread : label ∈ Stage.read stages := List.count_pos_iff.mp (by omega)
    simp [hread]
  have hends : ends.filter (!(Stage.read stages).contains ·) = ends := by
    refine List.filter_eq_self.mpr fun label hlabel => ?_
    simp [(h.ends_unread label hlabel).2]
  rw [terminalPads_eq h, hlast, List.filter_append, hinner, hends, List.nil_append]

/-! ### The whole wiring -/

/-- A graph made stage by stage is wired by last makers: between two stages there is a link for each
time that the second reads a label which the first makes and no stage between them. No stage feeds
itself, so that the graph is written, stage by stage, and what no stage reads from its last maker is
left as a terminal pad. -/
theorem wired_by_last_makers (print : φ → String) (stages : List (Stage φ)) :
    (∀ source target label, (ofStages stages).links.count ⟨source, target, label⟩ =
      if Stage.LastMaker stages label source target then (Stage.readAt stages target).count label
      else 0) ∧
    (∀ index, ¬ Relation.TransGen (ofStages stages).Feeds index index) ∧
    (ofStages stages).describe print = .ok (";".intercalate (stages.map (Stage.render print))) ∧
    (ofStages stages).terminalPads = stages.zipIdx.flatMap fun (s, index) =>
      s.outputs.filter fun label => ∀ target < stages.length,
        ¬ (Stage.LastMaker stages label index target ∧ label ∈ Stage.readAt stages target) := by
  refine ⟨count_links stages, fun index h => ?_, ?_, terminalPads_filter stages⟩
  · exact Nat.lt_irrefl index (lt_of_transGen_feeds h)
  · rw [describe_ofStages, render_ofStages]

end Montage.Graph
