import Mathlib
import Montage.Filter.Graph

/-! Chains of stages that pass pads on. A run of stages takes pads off a stock of open pads and adds
its outputs to it. When only the ends of the graph are left open, every other pad was read once. -/
namespace Montage.Stage

variable {φ : Type} {s : Stage φ} {stages xs ys : List (Stage φ)}
  {opened mid closed others : Multiset String} {External : String → Prop} {label : String}
  {ends : List String}

def made (stages : List (Stage φ)) : List String :=
  stages.flatMap (·.outputs)

def read (stages : List (Stage φ)) : List String :=
  stages.flatMap (·.inputs)

/-- Every pad has one maker, is made before it is read, and is read once. Only pads from outside
need no maker, and only the ends are not read. -/
structure WellWired (External : String → Prop) (ends : List String) (stages : List (Stage φ)) :
    Prop where
  made_nodup : (made stages).Nodup
  made_inside : ∀ label ∈ made stages, ¬ External label
  made_before : ∀ before s after, stages = before ++ s :: after →
    ∀ label ∈ s.inputs, External label ∨ label ∈ made before
  read_once : ∀ label ∈ made stages, label ∉ ends → (read stages).count label = 1
  ends_unread : ∀ label ∈ ends, label ∈ made stages ∧ label ∉ read stages

/-- The stages take their inputs off the open pads, or from outside, and leave the closed ones. -/
def Flow (External : String → Prop) :
    List (Stage φ) → Multiset String → Multiset String → Prop
  | [], opened, closed => opened = closed
  | s :: rest, opened, closed => ∃ outside taken kept : Multiset String,
      (s.inputs : Multiset String) = outside + taken ∧ (∀ label ∈ outside, External label) ∧
        opened = taken + kept ∧ Flow External rest (s.outputs + kept) closed

theorem made_append (xs ys : List (Stage φ)) : made (xs ++ ys) = made xs ++ made ys :=
  List.flatMap_append

theorem read_append (xs ys : List (Stage φ)) : read (xs ++ ys) = read xs ++ read ys :=
  List.flatMap_append

theorem mem_made : label ∈ made stages ↔ ∃ s ∈ stages, label ∈ s.outputs :=
  List.mem_flatMap

theorem mem_read : label ∈ read stages ↔ ∃ s ∈ stages, label ∈ s.inputs :=
  List.mem_flatMap

/-- When every label is made once, one stage makes it. -/
theorem index_unique (h : (made stages).Nodup) {i j : Nat} {r : Stage φ}
    (hi : stages[i]? = some s) (hs : label ∈ s.outputs)
    (hj : stages[j]? = some r) (hr : label ∈ r.outputs) : i = j := by
  obtain ⟨-, hpairwise⟩ := List.nodup_flatMap.mp h
  obtain ⟨hilt, rfl⟩ := List.getElem?_eq_some_iff.mp hi
  obtain ⟨hjlt, rfl⟩ := List.getElem?_eq_some_iff.mp hj
  rcases Nat.lt_trichotomy i j with hij | hij | hij
  · exact absurd hr (List.pairwise_iff_getElem.mp hpairwise i j hilt hjlt hij hs)
  · exact hij
  · exact absurd hs (List.pairwise_iff_getElem.mp hpairwise j i hjlt hilt hij hr)

namespace Flow

theorem append (hx : Flow External xs opened mid) (hy : Flow External ys mid closed) :
    Flow External (xs ++ ys) opened closed := by
  induction xs generalizing opened with
  | nil =>
    obtain rfl : opened = mid := hx
    exact hy
  | cons s rest ih =>
    obtain ⟨outside, taken, kept, hinputs, houtside, hopened, hrest⟩ := hx
    exact ⟨outside, taken, kept, hinputs, houtside, hopened, ih hrest⟩

/-- Pads that the stages do not take stay open. -/
theorem frame (others : Multiset String) (h : Flow External stages opened closed) :
    Flow External stages (opened + others) (closed + others) := by
  induction stages generalizing opened with
  | nil => exact congrArg (· + others) h
  | cons s rest ih =>
    obtain ⟨outside, taken, kept, hinputs, houtside, hopened, hrest⟩ := h
    refine ⟨outside, taken, kept + others, hinputs, houtside, ?_, ?_⟩
    · rw [hopened, add_assoc]
    · rw [← add_assoc]
      exact ih hrest

theorem frame_left (others : Multiset String) (h : Flow External stages opened closed) :
    Flow External stages (others + opened) (others + closed) := by
  rw [add_comm others, add_comm others]
  exact h.frame others

/-- A stage that reads open pads only replaces them by its outputs. -/
theorem single (s : Stage φ) : Flow External [s] s.inputs s.outputs :=
  ⟨0, s.inputs, 0, (zero_add _).symm, by simp, (add_zero _).symm, add_zero _⟩

/-- Stages that read from outside only add what they make. -/
theorem of_external (h : ∀ s ∈ stages, ∀ label ∈ s.inputs, External label)
    (opened : Multiset String) : Flow External stages opened (opened + made stages) := by
  induction stages generalizing opened with
  | nil => exact (add_zero opened).symm
  | cons s rest ih =>
    refine ⟨s.inputs, 0, opened, (add_zero _).symm, h s List.mem_cons_self,
      (zero_add _).symm, ?_⟩
    have hrest := ih (fun r hr => h r (List.mem_cons_of_mem s hr)) (s.outputs + opened)
    have hmade : (made (s :: rest) : Multiset String) = s.outputs + made rest :=
      (Multiset.coe_add _ _).symm
    rwa [hmade, ← add_assoc, add_comm opened]

/-- What is open before or made in between is open afterwards or was read. -/
theorem count (h : Flow External stages opened closed) (hlabel : ¬ External label) :
    (read stages).count label + closed.count label =
      opened.count label + (made stages).count label := by
  induction stages generalizing opened with
  | nil =>
    obtain rfl : opened = closed := h
    exact Nat.add_comm _ _
  | cons s rest ih =>
    obtain ⟨outside, taken, kept, hinputs, houtside, rfl, hrest⟩ := h
    have hnone : outside.count label = 0 :=
      Multiset.count_eq_zero.mpr fun hmem => hlabel (houtside label hmem)
    have htaken : s.inputs.count label = taken.count label := by
      rw [← Multiset.coe_count, hinputs, Multiset.count_add, hnone, Nat.zero_add]
    have hafter := ih hrest
    rw [Multiset.count_add, Multiset.coe_count] at hafter
    simp only [read, made, List.flatMap_cons, List.count_append, Multiset.count_add] at hafter ⊢
    omega

theorem made_before (h : Flow External stages opened closed) {before after : List (Stage φ)}
    (hsplit : stages = before ++ s :: after) (hlabel : label ∈ s.inputs) :
    External label ∨ label ∈ opened ∨ label ∈ made before := by
  induction before generalizing stages opened with
  | nil =>
    subst hsplit
    obtain ⟨outside, taken, kept, hinputs, houtside, rfl, -⟩ := h
    have hmem : label ∈ outside + taken := hinputs ▸ Multiset.mem_coe.mpr hlabel
    rcases Multiset.mem_add.mp hmem with hout | htaken
    · exact Or.inl (houtside label hout)
    · exact Or.inr (Or.inl (Multiset.mem_add.mpr (Or.inl htaken)))
  | cons first before ih =>
    subst hsplit
    obtain ⟨outside, taken, kept, hinputs, houtside, rfl, hrest⟩ := h
    rcases ih hrest rfl with hout | hopen | hmade
    · exact Or.inl hout
    · rcases Multiset.mem_add.mp hopen with hfirst | hkept
      · exact Or.inr (Or.inr (List.mem_append_left _ (Multiset.mem_coe.mp hfirst)))
      · exact Or.inr (Or.inl (Multiset.mem_add.mpr (Or.inr hkept)))
    · exact Or.inr (Or.inr (List.mem_append_right _ hmade))

end Flow

/-- A run that starts with nothing open and leaves the ends wires every pad once. -/
theorem wellWired_of_flow (h : Flow External stages 0 ends) (hnodup : (made stages).Nodup)
    (hinside : ∀ label ∈ made stages, ¬ External label)
    (hends : ∀ label ∈ ends, ¬ External label) : WellWired External ends stages where
  made_nodup := hnodup
  made_inside := hinside
  made_before before s after hsplit label hlabel := by
    rcases h.made_before hsplit hlabel with hout | hnone | hmade
    · exact Or.inl hout
    · exact absurd hnone (Multiset.notMem_zero label)
    · exact Or.inr hmade
  read_once label hmade hend := by
    have hcount := h.count (hinside label hmade)
    rw [Multiset.coe_count, List.count_eq_zero.mpr hend, Multiset.count_zero,
      List.count_eq_one_of_mem hnodup hmade] at hcount
    exact hcount
  ends_unread label hend := by
    have hcount := h.count (hends label hend)
    have hpos : 0 < ends.count label := List.count_pos_iff.mpr hend
    have hle : (made stages).count label ≤ 1 := List.nodup_iff_count_le_one.mp hnodup label
    rw [Multiset.coe_count, Multiset.count_zero] at hcount
    refine ⟨List.count_pos_iff.mp ?_, List.count_eq_zero.mp ?_⟩ <;> omega

end Montage.Stage
