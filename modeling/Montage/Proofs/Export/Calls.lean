import Montage.Proofs.Export.Course
import Montage.Proofs.Plan.Build
import Montage.Proofs.Plan.Meaning

/-! The order in which an export uses its encoder. The answer to a call is told from its record,
since the disk that the encoder found is part of it. -/
namespace Montage

/-! ### Answers -/

def Call.isDuration : Call → Bool
  | duration _ => true
  | _ => false

/-- What an encode is asked for. -/
def Call.job? : Call → Option EncodeJob
  | encode job => some job
  | _ => none

theorem Call.eq_encode_of_job? {call : Call} {job : EncodeJob} (h : call.job? = some job) :
    call = .encode job := by
  cases call with
  | encode other => rw [Option.some.inj h]
  | frameSize | duration | textImage => cases h

/-- The error of a step, if it is one. -/
def failureOf {α : Type} : Except ExportError α → Option ExportError
  | .ok _ => none
  | .error e => some e

namespace Encoder

variable (encoder : Encoder)

/-- What went wrong with a call, if anything. An encoder that ran and failed has an outcome. -/
def failure? (record : CallRecord) : Option ExportError :=
  match record.call with
  | .frameSize path => failureOf (encoder.frameSize path record.before).1
  | .duration path => failureOf (encoder.duration path record.before).1
  | .textImage job output => failureOf (encoder.textImage job output record.before).1
  | .encode job => failureOf (encoder.encode job record.before).1

/-- The outcome of an encode that was run. -/
def outcome? (record : CallRecord) : Option EncodeOutcome :=
  match record.call with
  | .encode job => (encoder.encode job record.before).1.toOption
  | _ => none

/-- Calls are made one after another until one fails. -/
inductive Attempts : List Call → List CallRecord → Except ExportError Unit → Prop
  | done : Attempts [] [] (.ok ())
  | failed {record : CallRecord} {rest : List Call} {e : ExportError}
      (hfailed : encoder.failure? record = some e) :
      Attempts (record.call :: rest) [record] (.error e)
  | made {record : CallRecord} {rest : List Call} {records : List CallRecord}
      {result : Except ExportError Unit} (hmade : encoder.failure? record = none)
      (hrest : Attempts rest records result) :
      Attempts (record.call :: rest) (record :: records) result

variable {encoder} {calls : List Call} {records : List CallRecord}
  {result : Except ExportError Unit} {e : ExportError}

namespace Attempts

theorem map_call_prefix (h : encoder.Attempts calls records result) :
    records.map (·.call) <+: calls := by
  induction h with
  | done => exact List.nil_prefix
  | failed _ => exact ⟨_, rfl⟩
  | made _ _ ih => exact List.cons_prefix_cons.mpr ⟨rfl, ih⟩

/-- Nothing is tried after a failure. -/
theorem last_of_failure (h : encoder.Attempts calls records result) {before after : List CallRecord}
    {record : CallRecord} (hrecords : records = before ++ record :: after)
    (hfailed : encoder.failure? record = some e) : after = [] ∧ result = .error e := by
  induction h generalizing before with
  | done => simp at hrecords
  | failed hlast =>
    rcases List.append_eq_singleton_iff.mp hrecords.symm with ⟨rfl, hsame⟩ | ⟨-, hnone⟩
    · obtain ⟨rfl, rfl⟩ := List.cons.inj hsame
      rw [hfailed, Option.some.injEq] at hlast
      exact ⟨rfl, by rw [hlast]⟩
    · cases hnone
  | made hmade _ ih =>
    cases before with
    | nil =>
      obtain ⟨rfl, -⟩ := List.cons.inj hrecords
      rw [hmade] at hfailed
      cases hfailed
    | cons head before => exact ih (List.cons.inj hrecords).2

theorem all_made (h : encoder.Attempts calls records (.ok ())) :
    records.map (·.call) = calls ∧ ∀ record ∈ records, encoder.failure? record = none := by
  generalize hresult : (Except.ok () : Except ExportError Unit) = result at h
  induction h with
  | done => exact ⟨rfl, fun _ hrecord => absurd hrecord List.not_mem_nil⟩
  | failed _ => cases hresult
  | made hmade _ ih =>
    obtain ⟨hcalls, hrecords⟩ := ih hresult
    exact ⟨by rw [List.map_cons, hcalls], List.forall_mem_cons.mpr ⟨hmade, hrecords⟩⟩

theorem exists_failure (h : encoder.Attempts calls records (.error e)) :
    ∃ record ∈ records, encoder.failure? record = some e := by
  generalize hresult : (Except.error e : Except ExportError Unit) = result at h
  induction h with
  | done => cases hresult
  | failed hfailed =>
    cases hresult
    exact ⟨_, List.mem_singleton_self _, hfailed⟩
  | made _ _ ih =>
    obtain ⟨record, hrecord, hfailed⟩ := ih hresult
    exact ⟨record, List.mem_cons_of_mem _ hrecord, hfailed⟩

end Attempts

end Encoder

namespace Export

open Encoder (Attempts)

variable {encoder : Encoder} {source : Option MusicSource} {settings : Settings}
  {request : ExportRequest} {workspace : Workspace} {frame : Nat × Nat} {track : Option Track}
  {staged : Path} {w w' : World}

/-! ### What every step adds to the log -/

theorem stage_calls {path : Path} {result : Except ExportError Path}
    (h : stage workspace path w = (result, w')) : w'.calls = w.calls := by
  rw [stage] at h
  obtain ⟨e, hchange, -⟩ | ⟨_, w₁, hchange, h⟩ := Run.of_bind h
  · exact Run.change_calls hchange
  · obtain ⟨-, rfl⟩ := Prod.mk.inj h
    exact Run.change_calls hchange

theorem persist_calls {output destination : Path} {result : Except ExportError Unit}
    (h : persist output destination w = (result, w')) : w'.calls = w.calls := by
  rw [persist] at h
  cases hparent : destination.parent? with
  | none =>
    rw [hparent] at h
    exact Run.change_calls h
  | some parent =>
    rw [hparent] at h
    obtain ⟨e, hmake, -⟩ | ⟨_, w₁, hmake, h⟩ := Run.of_bind h
    · exact Run.changeInSteps_calls hmake
    · exact (Run.change_calls h).trans (Run.changeInSteps_calls hmake)

theorem create_calls {scratch : Path} {id : String} {result : Except ExportError Workspace}
    (h : Workspace.create scratch id w = (result, w')) : w'.calls = w.calls := by
  rw [Workspace.create] at h
  obtain ⟨e, hmake, -⟩ | ⟨_, w₁, hmake, h⟩ := Run.of_bind h
  · exact Run.changeInSteps_calls hmake
  · rw [← Run.changeInSteps_calls hmake]
    split at h <;> obtain ⟨-, rfl⟩ := Prod.mk.inj h <;> rfl

/-- One call for the frame, and perhaps one for the length of a track. -/
theorem Opened.calls {w₁ : World}
    (h : Opened encoder source settings request workspace w staged frame track w₁) :
    ∃ probe lengths, w₁.calls = w.calls ++ probe :: lengths ∧ probe.call = .frameSize staged ∧
      frame = frameFrom settings (encoder.frameSize staged probe.before).1 ∧
        ∀ record ∈ lengths, record.call.isDuration = true := by
  obtain ⟨hstage, hframe, htrack⟩ := h
  rename_i w₂ w₃
  rw [frameOf_eq] at hframe
  obtain ⟨hanswer, rfl⟩ := Prod.mk.inj hframe
  have hfrom := (Except.ok.inj hanswer).symm
  obtain ⟨track, w₄, hfound, -, hworld⟩ := trackOf_ok encoder source request.timeline _
  rw [hfound] at htrack
  obtain ⟨-, rfl⟩ := Prod.mk.inj htrack
  refine ⟨⟨.frameSize staged, w₂.disk⟩, ?_⟩
  rcases hworld with rfl | ⟨path, rfl⟩
  · refine ⟨[], ?_, rfl, hfrom, fun _ h => absurd h List.not_mem_nil⟩
    rw [stage_calls hstage]
  · refine ⟨[⟨.duration path, (encoder.frameSize staged w₂.disk).2⟩], ?_, rfl, hfrom, ?_⟩
    · rw [← stage_calls hstage]
      exact List.append_assoc _ _ _
    · intro record hrecord
      rw [List.mem_singleton.mp hrecord]
      rfl

/-! ### Images -/

/-- The calls for the images of some inputs, numbered from `number` on. -/
def imageCalls (workspace : Workspace) (frame : Nat × Nat) :
    Nat → List (PlanInput Binary64) → List Call
  | _, [] => []
  | number, .textImage overlay words position _ :: rest =>
    .textImage ⟨overlay, words, position, frame.1, frame.2⟩
      (workspace.file (imageName number)) :: imageCalls workspace frame (number + 1) rest
  | number, _ :: rest => imageCalls workspace frame (number + 1) rest

theorem exists_textImage_of_mem {number : Nat} {inputs : List (PlanInput Binary64)} {call : Call}
    (h : call ∈ imageCalls workspace frame number inputs) :
    ∃ job output, call = .textImage job output := by
  induction inputs generalizing number with
  | nil => cases h
  | cons input rest ih =>
    cases input with
    | source => exact ih h
    | music keywords volume => exact ih h
    | textImage overlay words position seconds =>
      rcases List.mem_cons.mp h with rfl | h
      · exact ⟨_, _, rfl⟩
      · exact ih h

/-- What an encode reads beside the source when all images are there. -/
def extrasOf (workspace : Workspace) (track : Option Track) :
    Nat → List (PlanInput Binary64) → List ExtraInput
  | _, [] => []
  | number, .source :: rest => extrasOf workspace track (number + 1) rest
  | number, .textImage _ _ _ seconds :: rest =>
    ⟨workspace.file (imageName number), .still seconds⟩ ::
      extrasOf workspace track (number + 1) rest
  | number, .music .. :: rest =>
    track.toList.map (fun track => ⟨track.path, .stream⟩) ++
      extrasOf workspace track (number + 1) rest

/-- The images are tried in order until one fails. -/
theorem extraInputs_calls {number : Nat} {inputs : List (PlanInput Binary64)}
    {result : Except ExportError (List ExtraInput)}
    (h : extraInputs encoder workspace frame track number inputs w = (result, w')) :
    ∃ records, w'.calls = w.calls ++ records ∧
      Attempts encoder (imageCalls workspace frame number inputs) records
        (result.map fun _ => ()) ∧
      ∀ extra, result = .ok extra → extra = extrasOf workspace track number inputs := by
  induction inputs generalizing number w w' result with
  | nil =>
    obtain ⟨rfl, rfl⟩ := Prod.mk.inj h
    exact ⟨[], (List.append_nil _).symm, .done, fun extra hextra => (Except.ok.inj hextra).symm⟩
  | cons input rest ih =>
    cases input with
    | source => exact ih h
    | music keywords volume =>
      obtain ⟨e, hrest, rfl⟩ | ⟨more, w₁, hrest, h⟩ := Run.of_bind h
      · obtain ⟨records, hcalls, hattempts, -⟩ := ih hrest
        exact ⟨records, hcalls, hattempts, nofun⟩
      · obtain ⟨records, hcalls, hattempts, hmore⟩ := ih hrest
        obtain ⟨rfl, rfl⟩ := Prod.mk.inj h
        refine ⟨records, hcalls, hattempts, fun extra hextra => ?_⟩
        rw [← Except.ok.inj hextra, hmore more rfl]
        rfl
    | textImage overlay words position seconds =>
      let job : TextImageJob := ⟨overlay, words, position, frame.1, frame.2⟩
      let image := workspace.file (imageName number)
      let record : CallRecord := ⟨.textImage job image, w.disk⟩
      obtain ⟨e, hdraw, rfl⟩ | ⟨_, w₁, hdraw, h⟩ := Run.of_bind h
      · obtain ⟨hfailed, rfl⟩ := Prod.mk.inj hdraw
        have hfailure : encoder.failure? record = some e := congrArg failureOf hfailed
        exact ⟨[record], rfl, .failed hfailure, nofun⟩
      · obtain ⟨hdrawn, rfl⟩ := Prod.mk.inj hdraw
        have hmade : encoder.failure? record = none := congrArg failureOf hdrawn
        obtain ⟨e, hrest, rfl⟩ | ⟨more, w₂, hrest, h⟩ := Run.of_bind h
        · obtain ⟨records, hcalls, hattempts, -⟩ := ih hrest
          refine ⟨record :: records, ?_, .made hmade hattempts, nofun⟩
          rw [hcalls, List.append_assoc]
          rfl
        · obtain ⟨records, hcalls, hattempts, hmore⟩ := ih hrest
          obtain ⟨rfl, rfl⟩ := Prod.mk.inj h
          refine ⟨record :: records, ?_, .made hmade hattempts, fun extra hextra => ?_⟩
          · rw [hcalls, List.append_assoc]
            rfl
          · rw [← Except.ok.inj hextra, hmore more rfl]
            rfl

end Export

end Montage
