import Montage.Filter.Basic
import Montage.Proofs.Filter.Wiring

/-! What reaches a pad. Followed backwards from the pad, the stages are a tree of filters over what
comes from outside. In a well-wired chain each stage makes its outputs of what reaches its
inputs. -/
namespace Montage

/-- A picture or a sound: one from outside, or an output of filters that run on others. -/
inductive Signal (ι α : Type)
  | outside (origin : ι)
  | made (filters : List (Filter α)) (sources : List (Signal ι α)) (output : Nat)

namespace Signal

variable {ι α : Type}

/-- What the filters make of the sources. A lone filter that passes its source on adds nothing. -/
def through : List (Filter α) → List (Signal ι α) → Nat → Signal ι α
  | [.pass], [source], 0 => source
  | [.passSound], [source], 0 => source
  | filters, sources, output => .made filters sources output

/-- What the label stands for after the stages, of which the newest is first. -/
def trace (origin : String → ι) : List (Stage (Filter α)) → String → Signal ι α
  | [], label => .outside (origin label)
  | s :: earlier, label =>
    match s.outputs.idxOf? label with
    | none => trace origin earlier label
    | some output => through s.filters (s.inputs.map (trace origin earlier)) output

def ofPad (origin : String → ι) (stages : List (Stage (Filter α))) (label : String) :
    Signal ι α :=
  trace origin stages.reverse label

variable {origin : String → ι} {stages before after : List (Stage (Filter α))}
  {s : Stage (Filter α)} {External : String → Prop} {ends : List String} {label : String}
  {output : Nat}

theorem ofPad_append_singleton (before : List (Stage (Filter α))) (s : Stage (Filter α))
    (label : String) : ofPad origin (before ++ [s]) label =
      match s.outputs.idxOf? label with
      | none => ofPad origin before label
      | some output => through s.filters (s.inputs.map (ofPad origin before)) output := by
  rw [ofPad, List.reverse_append]
  rfl

/-- Later stages that do not make the pad leave it as it was. -/
theorem ofPad_append (h : label ∉ Stage.made after) :
    ofPad origin (before ++ after) label = ofPad origin before label := by
  induction after using List.reverseRecOn with
  | nil => rw [List.append_nil]
  | append_singleton after s ih =>
    rw [Stage.made_append, List.mem_append, not_or] at h
    have hnone : s.outputs.idxOf? label = none := by
      refine List.idxOf?_eq_none_iff.mpr fun hs => h.2 ?_
      exact Stage.mem_made.mpr ⟨s, List.mem_singleton_self s, hs⟩
    rw [← List.append_assoc, ofPad_append_singleton, hnone]
    exact ih h.1

theorem ofPad_of_not_made (h : label ∉ Stage.made stages) :
    ofPad origin stages label = .outside (origin label) := by
  have hnone : ofPad origin ([] ++ stages) label = ofPad origin [] label := ofPad_append h
  exact hnone

theorem ofPad_of_mem (h : Stage.WellWired External ends stages) (hs : s ∈ stages)
    (houtput : s.outputs.idxOf? label = some output) :
    ofPad origin stages label =
      through s.filters (s.inputs.map (ofPad origin stages)) output := by
  obtain ⟨before, after, rfl⟩ := List.append_of_mem hs
  have hsplit : before ++ s :: after = (before ++ [s]) ++ after := by simp
  have hnodup := h.made_nodup
  have hlabel : label ∈ s.outputs := by
    by_contra hnot
    rw [List.idxOf?_eq_none_iff.mpr hnot] at houtput
    cases houtput
  -- Nothing after the stage makes the label again.
  have hafter : label ∉ Stage.made after := by
    rw [hsplit, Stage.made_append] at hnodup
    refine List.disjoint_of_nodup_append hnodup (Stage.mem_made.mpr ⟨s, ?_, hlabel⟩)
    exact List.mem_append_right _ (List.mem_singleton_self s)
  have hinputs : s.inputs.map (ofPad origin before) =
      s.inputs.map (ofPad origin (before ++ s :: after)) := by
    refine List.map_congr_left fun input hinput => (ofPad_append fun hlater => ?_).symm
    rcases h.made_before before s after rfl input hinput with houtside | hearlier
    · refine h.made_inside input ?_ houtside
      rw [Stage.made_append]
      exact List.mem_append_right _ hlater
    · rw [Stage.made_append] at hnodup
      exact List.disjoint_of_nodup_append hnodup hearlier hlater
  rw [← hinputs, hsplit, ofPad_append hafter, ofPad_append_singleton, houtput]

end Signal

end Montage
