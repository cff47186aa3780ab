import Montage.Proofs.Edit.Usable
import Montage.Proofs.Timeline.Pieces

/-! Edits that cannot be used leave no trace. Compiling sees its edits only after they were made
usable, so what is dropped there moves nothing, the split margin included. -/
namespace Montage.Timeline

theorem compile_of_normalized_eq {α : Type} [Scalar α] {picks : List (Pick α)}
    {edits others : List (Edit α)} {duration : α}
    (h : Edit.normalized (mediaLimit picks duration) others =
      Edit.normalized (mediaLimit picks duration) edits) :
    compile picks others duration = compile picks edits duration := by
  rw [compile, compile, h]

/-- Making edits usable keeps those of which something is left, in their order, and finds nothing
more to do on its own result. Compiling cannot tell the edits from what it makes of them, nor from
the same edits among others of which nothing is left. -/
theorem normalized_closure (edits : List (Edit Binary64)) :
    (∀ limit,
      List.Forall₂ (Edit.Tidies limit) (edits.filter (·.Survives limit))
        (Edit.normalized limit edits) ∧
      (∀ e ∈ Edit.normalized limit edits, e.IsUsable limit) ∧
      Edit.normalized limit (Edit.normalized limit edits) = Edit.normalized limit edits) ∧
    ∀ picks duration,
      compile picks (Edit.normalized (mediaLimit picks duration) edits) duration =
        compile picks edits duration ∧
      ∀ others, Edit.Padded (mediaLimit picks duration) edits others →
        compile picks others duration = compile picks edits duration := by
  constructor
  · intro limit
    exact ⟨Edit.forall₂_normalized limit edits, fun _ he => Edit.isUsable_of_mem_normalized he,
      Edit.normalized_normalized limit edits⟩
  · intro picks duration
    exact ⟨compile_of_normalized_eq (Edit.normalized_normalized _ edits),
      fun _ h => compile_of_normalized_eq (Edit.normalized_of_padded h)⟩

/-- A delete of no length, and a volume past the end of the media, around a change of speed. With
the delete in force, clips would be cut finer. -/
theorem compile_of_dropped_delete :
    let picks : List (Pick Binary64) := [.over ⟨0, 10⟩]
    let fast : Edit Binary64 := .speed ⟨2, 8⟩ 2
    let drop : Edit Binary64 := .delete ⟨5, 5⟩
    let late : Edit Binary64 := .volume ⟨12, 14⟩ 0.5
    splitMargin [drop, fast, late] ≠ splitMargin [fast] ∧
      Edit.Padded (mediaLimit picks 10) [fast] [drop, fast, late] ∧
      compile picks [drop, fast, late] 10 = compile picks [fast] 10 := by
  intro picks fast drop late
  have hdrop : drop.normal? (mediaLimit picks 10) = none := by decide +kernel
  have hlate : late.normal? (mediaLimit picks 10) = none := by decide +kernel
  have hpadded : Edit.Padded (mediaLimit picks 10) [fast] [drop, fast, late] :=
    .insert hdrop (.keep fast (.insert hlate .nil))
  exact ⟨by decide +kernel, hpadded, ((normalized_closure [fast]).2 picks 10).2 _ hpadded⟩

end Montage.Timeline
