import Montage.Number.Floating
import Montage.Proofs.Filter.Picture
import Montage.Proofs.Plan.Wiring

/-! Every timeline with clips has a plan when its crops have a size. The graph of the plan can be
put in an order and leaves only the outputs open, so that the checks on the graph never fail. -/
namespace Montage

/-- No crop that the clip makes has a side that is not a number. -/
def Clip.HasCropSize {α : Type} [Scalar α] (c : Clip α) : Prop :=
  ∀ change ∈ c.transform, ∀ crop ∈ change.crop, crop.HasSize

instance {α : Type} [Scalar α] (c : Clip α) : Decidable c.HasCropSize :=
  inferInstanceAs (Decidable (∀ change ∈ c.transform, ∀ crop ∈ change.crop, crop.HasSize))

theorem Clip.pictureFilters?_isSome {c : Clip Binary64} (options : PlanOptions)
    (h : c.HasCropSize) : (pictureFilters? options c).isSome := by
  unfold pictureFilters?
  split
  · rfl
  · rename_i change hchange
    exact Transform.filters?_isSome (h change hchange)

namespace Plan

section Graph

variable {α : Type} [Scalar α] {options : PlanOptions} {t : Timeline α}

theorem graph_eq (hclips : t.clips ≠ [])
    (h : ∀ c ∈ t.clips, (Clip.pictureFilters? options c).isSome) :
    graph t options = .ok (.ofStages (stages options t)) := by
  rw [graph, if_neg (by simpa using hclips), stages?_eq h]

theorem inputs_of_build {plan : RenderPlan α} (h : build t options = .ok plan) :
    plan.inputs = inputs t options := by
  unfold build at h
  cases hgraph : graph t options with
  | error e =>
    rw [hgraph] at h
    cases h
  | ok g =>
    rw [hgraph] at h
    change (g.describe Filter.print >>= _) = _ at h
    cases hdescribe : g.describe Filter.print with
    | error e =>
      rw [hdescribe] at h
      cases h
    | ok description =>
      rw [hdescribe] at h
      change (if _ then _ else _) = _ at h
      split at h
      · rw [← Except.ok.inj h]
      · cases h

/-- What the checks on the graph let through is the whole plan. -/
theorem build_eq (hclips : t.clips ≠ [])
    (h : ∀ c ∈ t.clips, (Clip.pictureFilters? options c).isSome) :
    build t options = .ok
      { inputs := inputs t options
        description := (Graph.ofStages (stages options t)).render Filter.print
        outputs := outputPads.map Stage.pad
        cap := if (inputs t options).any PlanInput.isLooped then some t.total else none
        total := t.total } := by
  obtain ⟨hwired, inner, hlast⟩ := wellWired_stages options t
  have hends := Graph.terminalPads_ofStages hwired hlast
  rw [build, graph_eq hclips h]
  change ((Graph.ofStages (stages options t)).describe Filter.print >>= _) = _
  rw [Graph.describe_ofStages]
  exact if_pos hends

end Graph

theorem pads_outputPads : outputPads.map Stage.pad = ["[outv]", "[outa]"] := by
  decide

/-- A timeline has a plan unless it has no clips. The graph of the plan is well wired, from the
inputs of the encoder to the two outputs. -/
theorem build_of_hasCropSize (t : Timeline Binary64) (options : PlanOptions)
    (hcrops : ∀ c ∈ t.clips, c.HasCropSize) :
    (build t options = .error .nothingToRender ↔ t.clips = []) ∧
      (t.clips ≠ [] → ∃ g plan, graph t options = .ok g ∧ build t options = .ok plan ∧
        plan.description = g.render Filter.print ∧ plan.outputs = ["[outv]", "[outa]"] ∧
          Stage.WellWired IsInputPad ["outv", "outa"] g.stages) := by
  have hfilters : ∀ c ∈ t.clips, (Clip.pictureFilters? options c).isSome :=
    fun c hc => c.pictureFilters?_isSome options (hcrops c hc)
  refine ⟨⟨fun herror => ?_, fun hclips => ?_⟩, fun hclips => ?_⟩
  · by_contra hclips
    rw [build_eq hclips hfilters] at herror
    cases herror
  · have hgraph : graph t options = .error .nothingToRender := if_pos (by simp [hclips])
    rw [build, hgraph]
    rfl
  · refine ⟨_, _, graph_eq hclips hfilters, build_eq hclips hfilters, rfl, pads_outputPads, ?_⟩
    rw [Graph.stages_ofStages]
    exact (wellWired_stages options t).1

/-- A clip with a crop, under a fade, two texts of which one is blank, and music. -/
theorem build_of_cropped_clip :
    let crop : CropRect Binary64 := ⟨0.5, 0.5, 2, 0⟩
    let clip : Clip Binary64 :=
      { Clip.source "a" ⟨0, 10⟩ with transform := some ⟨1, 0, 0, 0, true, false, some crop⟩ }
    let t : Timeline Binary64 :=
      { clips := [clip]
        total := 10
        texts := [⟨⟨1, 2⟩, ⟨1, 2⟩, .text " " .top⟩, ⟨⟨3, 4⟩, ⟨3, 4⟩, .text "Hello" .bottom⟩]
        fades := [⟨⟨0, 1⟩, ⟨0, 1⟩, .fade .fadeIn⟩]
        music := [⟨"calm", 0.3⟩] }
    (∀ c ∈ t.clips, c.HasCropSize) ∧ t.clips ≠ [] ∧
      ∃ g plan, graph t .default = .ok g ∧ build t .default = .ok plan ∧
        plan.description = g.render Filter.print ∧ plan.outputs = ["[outv]", "[outa]"] ∧
          Stage.WellWired IsInputPad ["outv", "outa"] g.stages := by
  intro crop clip t
  have hcrops : ∀ c ∈ t.clips, c.HasCropSize := by decide +kernel
  have hclips : t.clips ≠ [] := List.cons_ne_nil _ _
  exact ⟨hcrops, hclips, (build_of_hasCropSize t .default hcrops).2 hclips⟩

end Plan

end Montage
