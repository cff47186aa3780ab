import Montage.Proofs.Export.Calls

/-! Exports that cannot be told apart but by the lengths that they have asked for. The steps of an
export read the disk and never the log, so that worlds that agree stay so. -/
namespace Montage

/-- The same disk and the same log, but for the lengths that were asked for. -/
structure World.Agree (w w' : World) : Prop where
  disk : w.disk = w'.disk
  calls : w.calls.filter (!·.call.isDuration) = w'.calls.filter (!·.call.isDuration)

namespace World.Agree

variable {w w' : World}

theorem refl (w : World) : w.Agree w :=
  ⟨rfl, rfl⟩

theorem record (h : w.Agree w') (call : Call) (after : Disk) :
    Agree ⟨after, w.calls ++ [⟨call, w.disk⟩]⟩ ⟨after, w'.calls ++ [⟨call, w'.disk⟩]⟩ where
  disk := rfl
  calls := by rw [List.filter_append, List.filter_append, h.calls, h.disk]

/-- A length is asked for, and the disk is left as it was. -/
theorem of_duration {encoder : Encoder} (hquiet : ∀ path d, (encoder.duration path d).2 = d)
    (path : Path) (w : World) : (encoder.runDuration path w).2.Agree w where
  disk := hquiet path w.disk
  calls := by
    have hcalls : (encoder.runDuration path w).2.calls =
        w.calls ++ [⟨.duration path, w.disk⟩] := rfl
    rw [hcalls, List.filter_append]
    exact List.append_nil _

end World.Agree

namespace Run

variable {α β : Type}

/-- From worlds that agree, both steps have the same result and lead to worlds that agree. -/
def Agree (step step' : Run α) : Prop :=
  ∀ w w', w.Agree w' → (step w).1 = (step' w').1 ∧ (step w).2.Agree (step' w').2

theorem agree_pure (a : α) : Agree (pure a : Run α) (pure a) :=
  fun _ _ h => ⟨rfl, h⟩

theorem agree_fail (e : ExportError) : Agree (fail e : Run α) (fail e) :=
  fun _ _ h => ⟨rfl, h⟩

theorem agree_ofExcept (result : Except ExportError α) :
    Agree (ofExcept result) (ofExcept result) := by
  cases result with
  | ok a => exact agree_pure a
  | error e => exact agree_fail e

theorem Agree.bind {step step' : Run α} {next next' : α → Run β} (hstep : Agree step step')
    (hnext : ∀ a, Agree (next a) (next' a)) : Agree (step >>= next) (step' >>= next') := by
  intro w w' h
  obtain ⟨hresult, hworld⟩ := hstep w w' h
  obtain ⟨result, w₁, hrun⟩ : ∃ result w₁, step w = (result, w₁) := ⟨_, _, rfl⟩
  obtain ⟨result', w₂, hrun'⟩ : ∃ result w₂, step' w' = (result, w₂) := ⟨_, _, rfl⟩
  rw [hrun, hrun'] at hresult hworld
  obtain rfl : result = result' := hresult
  cases result with
  | error e =>
    rw [bind_of_error hrun, bind_of_error hrun']
    exact ⟨rfl, hworld⟩
  | ok a =>
    rw [bind_of_ok hrun, bind_of_ok hrun']
    exact hnext a w₁ w₂ hworld

theorem agree_change (operation : Disk → Except FileError Disk) :
    Agree (change operation) (change operation) := by
  intro w w' h
  rw [change, change, h.disk]
  cases operation w'.disk with
  | ok d => exact ⟨rfl, rfl, h.calls⟩
  | error e => exact ⟨rfl, h⟩

theorem agree_changeOr (first second : Disk → Except FileError Disk) :
    Agree (changeOr first second) (changeOr first second) :=
  agree_change _

theorem agree_changeInSteps (operation : Disk → Except FileError Unit × Disk) :
    Agree (changeInSteps operation) (changeInSteps operation) := by
  intro w w' h
  rw [changeInSteps, changeInSteps, h.disk]
  rcases operation w'.disk with ⟨e | _, d⟩
  · exact ⟨rfl, rfl, h.calls⟩
  · exact ⟨rfl, rfl, h.calls⟩

theorem agree_record (call : Call) (operation : Disk → Except ExportError α × Disk) :
    Agree (record call operation) (record call operation) := by
  intro w w' h
  have hlog := h.record call (operation w'.disk).2
  rw [h.disk] at hlog
  rw [record, record, h.disk]
  exact ⟨rfl, hlog⟩

end Run

namespace Export

variable (encoder : Encoder) (workspace : Workspace)

theorem agree_extraInputs (frame : Nat × Nat) (track : Option Track) (number : Nat)
    (inputs : List (PlanInput Binary64)) :
    Run.Agree (extraInputs encoder workspace frame track number inputs)
      (extraInputs encoder workspace frame track number inputs) := by
  induction inputs generalizing number with
  | nil => exact Run.agree_pure _
  | cons input rest ih =>
    cases input with
    | source => exact ih (number + 1)
    | textImage overlay words position seconds =>
      exact (Run.agree_record _ _).bind fun _ => (ih (number + 1)).bind fun _ => Run.agree_pure _
    | music => exact (ih (number + 1)).bind fun _ => Run.agree_pure _

theorem agree_persist (output destination : Path) :
    Run.Agree (persist output destination) (persist output destination) := by
  have hmove := Run.agree_changeOr (·.rename output destination) (·.copy output destination)
  rw [persist]
  cases destination.parent? with
  | none => exact (Run.agree_pure ()).bind fun _ => hmove
  | some parent => exact (Run.agree_changeInSteps _).bind fun _ => hmove

end Export

end Montage
