import Montage.Export.Timeline

/-! What can happen in an export. Every way in which the work in a workspace can end is one case,
with all that was done before. -/
namespace Montage

namespace Run

variable {α β : Type} {step : Run α} {next : α → Run β} {w w₁ w' : World} {e : ExportError}
  {result : Except ExportError β}

theorem bind_of_ok {a : α} (h : step w = (.ok a, w₁)) : (step >>= next) w = next a w₁ := by
  change Run.bind step next w = _
  rw [Run.bind, h]

theorem bind_of_error (h : step w = (.error e, w₁)) : (step >>= next) w = (.error e, w₁) := by
  change Run.bind step next w = _
  rw [Run.bind, h]

/-- Either the first of two steps fails, or the second goes on where the first ended. -/
theorem of_bind (h : (step >>= next) w = (result, w')) :
    (∃ e, step w = (.error e, w') ∧ result = .error e) ∨
      ∃ a w₁, step w = (.ok a, w₁) ∧ next a w₁ = (result, w') := by
  match hstep : step w with
  | (.error e, w₁) =>
    rw [bind_of_error hstep, Prod.mk.injEq] at h
    obtain ⟨rfl, rfl⟩ := h
    exact Or.inl ⟨e, rfl, rfl⟩
  | (.ok a, w₁) =>
    rw [bind_of_ok hstep] at h
    exact Or.inr ⟨a, w₁, rfl, h⟩

theorem change_calls {operation : Disk → Except FileError Disk} {result : Except ExportError Unit}
    (h : change operation w = (result, w')) : w'.calls = w.calls := by
  rw [change] at h
  split at h <;> obtain ⟨-, rfl⟩ := Prod.mk.inj h <;> rfl

theorem changeInSteps_calls {operation : Disk → Except FileError Unit × Disk}
    {result : Except ExportError Unit} (h : changeInSteps operation w = (result, w')) :
    w'.calls = w.calls := by
  rw [changeInSteps] at h
  split at h <;> obtain ⟨-, rfl⟩ := Prod.mk.inj h <;> rfl

end Run

namespace Export

/-! ### The frame and the music -/

/-- The frame that an answer of the prober leads to. -/
def frameFrom (settings : Settings) : Except ExportError (Nat × Nat) → Nat × Nat
  | .ok frame => frame
  | .error _ => (settings.fallbackWidth, settings.fallbackHeight)

section Opening

variable (encoder : Encoder) (source : Option MusicSource) (settings : Settings)

/-- A frame is found whatever the prober answers. -/
theorem frameOf_eq (staged : Path) (w : World) :
    frameOf encoder settings staged w =
      (.ok (frameFrom settings (encoder.frameSize staged w.disk).1),
        ⟨(encoder.frameSize staged w.disk).2, w.calls ++ [⟨.frameSize staged, w.disk⟩]⟩) := by
  have hprobe : (encoder.runFrameSize staged).attempt w =
      (.ok (encoder.frameSize staged w.disk).1,
        ⟨(encoder.frameSize staged w.disk).2, w.calls ++ [⟨.frameSize staged, w.disk⟩]⟩) := rfl
  rw [frameOf, Run.bind_of_ok hprobe]
  cases (encoder.frameSize staged w.disk).1 <;> rfl

/-- A track is found without the encoder, or its length is asked for. -/
theorem resolve_world (find : MusicSource) (keywords : String) (w : World) :
    (Music.resolve encoder find keywords w).2 = w ∨
      ∃ path, (Music.resolve encoder find keywords w).2 = (encoder.runDuration path w).2 := by
  rw [Music.resolve]
  cases hfound : find w.disk keywords with
  | error e => exact Or.inl rfl
  | ok found =>
    cases hknown : found.duration with
    | some duration => simp [hknown]
    | none =>
      refine Or.inr ⟨found.path, ?_⟩
      match hlength : encoder.runDuration found.path w with
      | (.ok duration, w') => simp [hknown, hlength]
      | (.error e, w') => simp [hknown, hlength]

/-- The track, if any, is what the source of music makes of the first request. -/
def Resolved (t : Timeline Binary64) (w : World) (track : Option Track) : Prop :=
  ∀ found ∈ track, ∃ find music, source = some find ∧ t.music.head? = some music ∧
    (Music.resolve encoder find music.keywords w).1 = .ok found

/-- An export goes on with a track or without one. -/
theorem trackOf_ok (t : Timeline Binary64) (w : World) :
    ∃ track w', trackOf encoder source t w = (.ok track, w') ∧
      Resolved encoder source t w track ∧
      (w' = w ∨ ∃ path, w' = (encoder.runDuration path w).2) := by
  unfold trackOf Resolved
  have hnone {P : Track → Prop} : ∀ found ∈ (none : Option Track), P found :=
    fun _ h => absurd h (Option.not_mem_none _)
  match t.music.head?, source with
  | some music, some find =>
    have hworld := resolve_world encoder find music.keywords w
    match hfound : Music.resolve encoder find music.keywords w with
    | (.ok track, w') =>
      have hattempt : (Music.resolve encoder find music.keywords).attempt w =
          (.ok (.ok track), w') := by rw [Run.attempt, hfound]
      rw [hfound] at hworld
      refine ⟨some track, w', Run.bind_of_ok hattempt, fun found h => ?_, hworld⟩
      cases h
      exact ⟨find, music, rfl, rfl, congrArg Prod.fst hfound⟩
    | (.error e, w') =>
      have hattempt : (Music.resolve encoder find music.keywords).attempt w =
          (.ok (.error e), w') := by rw [Run.attempt, hfound]
      rw [hfound] at hworld
      exact ⟨none, w', Run.bind_of_ok hattempt, hnone, hworld⟩
  | none, _ | some _, none => exact ⟨none, w, rfl, hnone, Or.inl rfl⟩

end Opening

/-! ### The whole -/

section Course

variable (encoder : Encoder) (source : Option MusicSource) (settings : Settings)
  (request : ExportRequest) (workspace : Workspace)

/-- The source is staged, and its frame and the music are known. -/
inductive Opened (w : World) : Path → Nat × Nat → Option Track → World → Prop
  | intro {staged : Path} {frame : Nat × Nat} {track : Option Track} {w₁ w₂ w₃ : World}
      (hstage : stage workspace request.source w = (.ok staged, w₁))
      (hframe : frameOf encoder settings staged w₁ = (.ok frame, w₂))
      (htrack : trackOf encoder source request.timeline w₂ = (.ok track, w₃)) :
      Opened w staged frame track w₃

/-- Where the encoder puts its output. -/
def outputOf : Path :=
  workspace.file ("output." ++ extensionOf request.destination)

/-- What the encoder is asked for when all inputs are there. -/
def jobOf (staged : Path) (plan : RenderPlan Binary64) (extra : List ExtraInput) : EncodeJob where
  source := staged
  description := plan.description
  extraInputs := extra
  outputs := plan.outputs
  cap := plan.cap
  output := outputOf request workspace

def reportOf (frame : Nat × Nat) (track : Option Track) (plan : RenderPlan Binary64) :
    ExportReport where
  request := request.id
  output := request.destination
  clipCount := request.timeline.clips.length
  total := plan.total
  textOverlays := plan.textImages.length
  frame := frame
  music := track.map (·.path)

/-- All inputs of the encode are there. -/
inductive Prepared (w : World) :
    Path → Nat × Nat → Option Track → RenderPlan Binary64 → List ExtraInput → World → Prop
  | intro {staged : Path} {frame : Nat × Nat} {track : Option Track} {plan : RenderPlan Binary64}
      {extra : List ExtraInput} {w₁ w₂ : World}
      (hopened : Opened encoder source settings request workspace w staged frame track w₁)
      (hplan : Plan.build request.timeline ⟨frame.1, frame.2, track.isSome⟩ = .ok plan)
      (hdraw : extraInputs encoder workspace frame track 0 plan.inputs w₁ = (.ok extra, w₂)) :
      Prepared w staged frame track plan extra w₂

/-- How the work in a workspace ends. -/
inductive Course (w : World) : Except ExportError ExportReport → World → Prop
  | unstaged {e : ExportError} {w' : World}
      (hstage : stage workspace request.source w = (.error e, w')) :
      Course w (.error e) w'
  | unplanned {staged : Path} {frame : Nat × Nat} {track : Option Track} {cause : PlanError}
      {w' : World}
      (hopened : Opened encoder source settings request workspace w staged frame track w')
      (hplan : Plan.build request.timeline ⟨frame.1, frame.2, track.isSome⟩ = .error cause) :
      Course w (.error (.ofPlan cause)) w'
  | undrawn {staged : Path} {frame : Nat × Nat} {track : Option Track} {plan : RenderPlan Binary64}
      {e : ExportError} {w₁ w' : World}
      (hopened : Opened encoder source settings request workspace w staged frame track w₁)
      (hplan : Plan.build request.timeline ⟨frame.1, frame.2, track.isSome⟩ = .ok plan)
      (hdraw : extraInputs encoder workspace frame track 0 plan.inputs w₁ = (.error e, w')) :
      Course w (.error e) w'
  | unencoded {staged : Path} {frame : Nat × Nat} {track : Option Track}
      {plan : RenderPlan Binary64} {extra : List ExtraInput} {e : ExportError} {w₁ w' : World}
      (hprepared : Prepared encoder source settings request workspace w staged frame track plan
        extra w₁)
      (hencode : encoder.runEncode (jobOf request workspace staged plan extra) w₁ =
        (.error e, w')) :
      Course w (.error e) w'
  | refused {staged : Path} {frame : Nat × Nat} {track : Option Track} {plan : RenderPlan Binary64}
      {extra : List ExtraInput} {outcome : EncodeOutcome} {w₁ w' : World}
      (hprepared : Prepared encoder source settings request workspace w staged frame track plan
        extra w₁)
      (hencode : encoder.runEncode (jobOf request workspace staged plan extra) w₁ =
        (.ok outcome, w'))
      (hexit : outcome.succeeded = false) :
      Course w (.error (.encoderFailed outcome.exitCode outcome.tail)) w'
  | unmoved {staged : Path} {frame : Nat × Nat} {track : Option Track} {plan : RenderPlan Binary64}
      {extra : List ExtraInput} {outcome : EncodeOutcome} {e : ExportError} {w₁ w₂ w' : World}
      (hprepared : Prepared encoder source settings request workspace w staged frame track plan
        extra w₁)
      (hencode : encoder.runEncode (jobOf request workspace staged plan extra) w₁ =
        (.ok outcome, w₂))
      (hexit : outcome.succeeded = true)
      (hmove : persist (outputOf request workspace) request.destination w₂ = (.error e, w')) :
      Course w (.error e) w'
  | finished {staged : Path} {frame : Nat × Nat} {track : Option Track}
      {plan : RenderPlan Binary64} {extra : List ExtraInput} {outcome : EncodeOutcome}
      {w₁ w₂ w' : World}
      (hprepared : Prepared encoder source settings request workspace w staged frame track plan
        extra w₁)
      (hencode : encoder.runEncode (jobOf request workspace staged plan extra) w₁ =
        (.ok outcome, w₂))
      (hexit : outcome.succeeded = true)
      (hmove : persist (outputOf request workspace) request.destination w₂ = (.ok (), w')) :
      Course w (.ok (reportOf request frame track plan)) w'

variable {encoder source settings request workspace}

/-- Every run takes one of these courses. -/
theorem course_of_work {w w' : World} {result : Except ExportError ExportReport}
    (h : work encoder source settings request workspace w = (result, w')) :
    Course encoder source settings request workspace w result w' := by
  rw [work] at h
  obtain ⟨e, hstage, rfl⟩ | ⟨staged, w₁, hstage, h⟩ := Run.of_bind h
  · exact .unstaged hstage
  have hframe := frameOf_eq encoder settings staged w₁
  rw [Run.bind_of_ok hframe] at h
  obtain ⟨track, w₃, htrack, -, -⟩ := trackOf_ok encoder source request.timeline _
  rw [Run.bind_of_ok htrack] at h
  have hopened := Opened.intro hstage hframe htrack
  generalize frameFrom settings (encoder.frameSize staged w₁.disk).1 = frame at h hopened
  match hplan : Plan.build request.timeline ⟨frame.1, frame.2, track.isSome⟩ with
  | .error cause =>
    have hstop : Run.ofExcept ((.error cause : Except PlanError (RenderPlan Binary64)).mapError
        ExportError.ofPlan) w₃ = (.error (.ofPlan cause), w₃) := rfl
    rw [hplan, Run.bind_of_error hstop] at h
    obtain ⟨rfl, rfl⟩ := Prod.mk.inj h
    exact .unplanned hopened hplan
  | .ok plan =>
    have hgo : Run.ofExcept ((.ok plan : Except PlanError (RenderPlan Binary64)).mapError
        ExportError.ofPlan) w₃ = (.ok plan, w₃) := rfl
    rw [hplan, Run.bind_of_ok hgo] at h
    obtain ⟨e, hdraw, rfl⟩ | ⟨extra, w₄, hdraw, h⟩ := Run.of_bind h
    · exact .undrawn hopened hplan hdraw
    have hprepared := Prepared.intro hopened hplan hdraw
    obtain ⟨e, hencode, rfl⟩ | ⟨outcome, w₅, hencode, h⟩ := Run.of_bind h
    · exact .unencoded hprepared hencode
    cases hexit : outcome.succeeded with
    | false =>
      rw [hexit] at h
      obtain ⟨rfl, rfl⟩ := Prod.mk.inj h
      exact .refused hprepared hencode hexit
    | true =>
      rw [hexit] at h
      obtain ⟨e, hmove, rfl⟩ | ⟨_, w₆, hmove, h⟩ := Run.of_bind h
      · exact .unmoved hprepared hencode hexit hmove
      · obtain ⟨rfl, rfl⟩ := Prod.mk.inj h
        exact .finished hprepared hencode hexit hmove

end Course

end Export

end Montage
