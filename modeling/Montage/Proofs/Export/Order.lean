import Montage.Encoder.Scripted
import Montage.Proofs.Export.Calls

/-! An export probes the frame, makes an image for every text that shows something, and encodes when
all images are there. Only an image, the encode or the move to the destination can make it fail. -/
namespace Montage.Export

open Encoder (Attempts)

variable {encoder : Encoder} {source : Option MusicSource} {settings : Settings}
  {request : ExportRequest} {workspace : Workspace} {frame : Nat × Nat} {track : Option Track}
  {staged : Path} {w w' : World}

/-! ### The texts that show something -/

/-- The number, the words and the position of a text that is not blank. -/
def shown? (text : Overlay Binary64 × Nat) : Option (Nat × String × TextPosition) :=
  match text.1.content with
  | .text words position =>
    if words.toList.all Text.isBlank then none else some (text.2, words, position)
  | .fade _ => none

/-- The calls for the images of all texts that are not blank. Input 0 is the source. -/
def textCalls (workspace : Workspace) (frame : Nat × Nat) (t : Timeline Binary64) : List Call :=
  (t.texts.zipIdx.filterMap shown?).zipIdx 1 |>.map fun ((overlay, words, position), input) =>
    .textImage ⟨overlay, words, position, frame.1, frame.2⟩ (workspace.file (imageName input))

theorem map_captions (t : Timeline Binary64) :
    (Plan.captions t).map (fun c => (c.overlay, c.words, c.position)) =
      t.texts.zipIdx.filterMap shown? := by
  rw [Plan.captions, List.map_filterMap]
  congr 1
  funext text
  obtain ⟨o, index⟩ := text
  cases h : o.content with
  | fade direction => simp [shown?, h]
  | text words position =>
    have hblank := Text.isEmpty_trim words.toList
    cases hall : words.toList.all Text.isBlank <;> simp [shown?, h, hblank, hall]

theorem imageCalls_music (number : Nat) (music : List (Music Binary64)) :
    imageCalls workspace frame number (music.map fun m => .music m.keywords m.volume) = [] := by
  induction music generalizing number with
  | nil => rfl
  | cons m rest ih => exact ih (number + 1)

theorem imageCalls_captions (seconds : Binary64) (number : Nat)
    (captions : List (Plan.Caption Binary64)) (rest : List (PlanInput Binary64)) :
    imageCalls workspace frame number
        (captions.map (fun c => .textImage c.overlay c.words c.position seconds) ++ rest) =
      ((captions.map fun c => (c.overlay, c.words, c.position)).zipIdx number).map
          (fun ((overlay, words, position), input) =>
            .textImage ⟨overlay, words, position, frame.1, frame.2⟩
              (workspace.file (imageName input))) ++
        imageCalls workspace frame (number + captions.length) rest := by
  induction captions generalizing number with
  | nil => rfl
  | cons c more ih =>
    have hmore := ih (number + 1)
    rw [Nat.add_right_comm number 1, Nat.add_assoc number more.length] at hmore
    exact congrArg (_ :: ·) hmore

theorem imageCalls_inputs (t : Timeline Binary64) (options : PlanOptions) :
    imageCalls workspace frame 0 (Plan.inputs t options) = textCalls workspace frame t := by
  have hcaptions := @imageCalls_captions workspace frame (Plan.stillSeconds t) 1 (Plan.captions t)
    ((Plan.mixedMusic? t options).toList.map fun m => .music m.keywords m.volume)
  rw [imageCalls_music, List.append_nil, map_captions] at hcaptions
  exact hcaptions

theorem not_isDuration_of_mem_textCalls {t : Timeline Binary64} {call : Call}
    (h : call ∈ textCalls workspace frame t) : call.isDuration = false := by
  obtain ⟨text, -, rfl⟩ := List.mem_map.mp h
  rfl

/-- The number of the text that a call is about. -/
def textOf? : Call → Option Nat
  | .textImage job _ => some job.index
  | _ => none

/-- No text is asked for twice. -/
theorem nodup_textCalls (t : Timeline Binary64) : (textCalls workspace frame t).Nodup := by
  have hnumbers : (t.texts.zipIdx.filterMap shown?).Pairwise (fun a b => a.1 ≠ b.1) := by
    have hall : t.texts.zipIdx.Pairwise (fun a b => a.2 ≠ b.2) := by
      have hrange : (t.texts.zipIdx.map Prod.snd).Nodup := by
        rw [List.zipIdx_map_snd]
        exact List.nodup_range'
      exact List.pairwise_map.mp hrange
    refine hall.filterMap _ fun a b hne x hx y hy => ?_
    have hnumber {text : Overlay Binary64 × Nat} {z : Nat × String × TextPosition}
        (h : shown? text = some z) : z.1 = text.2 := by
      rw [shown?] at h
      split at h
      · split at h
        · cases h
        · rw [← Option.some.inj h]
      · cases h
    rwa [hnumber hx, hnumber hy]
  have hmap : (textCalls workspace frame t).map textOf? =
      (t.texts.zipIdx.filterMap shown?).map fun text => some text.1 := by
    conv_rhs => rw [← List.zipIdx_map_fst 1 (t.texts.zipIdx.filterMap shown?), List.map_map]
    rw [textCalls, List.map_map]
    rfl
  refine List.Nodup.of_map textOf? ?_
  rw [hmap]
  exact List.pairwise_map.mpr (hnumbers.imp fun hne hsame => hne (Option.some.inj hsame))

/-! ### What an export does before the encode -/

theorem Opened.images {w₁ : World} {plan : RenderPlan Binary64}
    {result : Except ExportError (List ExtraInput)}
    (hopened : Opened encoder source settings request workspace w staged frame track w₁)
    (hplan : Plan.build request.timeline ⟨frame.1, frame.2, track.isSome⟩ = .ok plan)
    (hdraw : extraInputs encoder workspace frame track 0 plan.inputs w₁ = (result, w')) :
    ∃ probe lengths images, w'.calls = w.calls ++ probe :: lengths ++ images ∧
      probe.call = .frameSize staged ∧
      frame = frameFrom settings (encoder.frameSize staged probe.before).1 ∧
      (∀ record ∈ lengths, record.call.isDuration = true) ∧
      Attempts encoder (textCalls workspace frame request.timeline) images
        (result.map fun _ => ()) := by
  obtain ⟨probe, lengths, hopening, hprobe, hframe, hlengths⟩ := hopened.calls
  obtain ⟨images, hcalls, hattempts, -⟩ := extraInputs_calls hdraw
  rw [Plan.inputs_of_build hplan, imageCalls_inputs] at hattempts
  exact ⟨probe, lengths, images, by rw [hcalls, hopening], hprobe, hframe, hlengths, hattempts⟩

/-- Whatever can make an export fail that has begun to use its encoder. -/
inductive Blamed (encoder : Encoder) (destination : Path) (images encodes : List CallRecord) :
    ExportError → Prop
  | image {record : CallRecord} {e : ExportError} (hmem : record ∈ images)
      (hfailed : encoder.failure? record = some e) : Blamed encoder destination images encodes e
  | encoder {record : CallRecord} {e : ExportError} (hmem : record ∈ encodes)
      (hfailed : encoder.failure? record = some e) : Blamed encoder destination images encodes e
  | exit {record : CallRecord} {outcome : EncodeOutcome} (hmem : record ∈ encodes)
      (houtcome : encoder.outcome? record = some outcome) (hexit : outcome.exitCode ≠ some 0) :
      Blamed encoder destination images encodes (.encoderFailed outcome.exitCode outcome.tail)
  /-- The encode went well, but its output could not be brought to the destination. -/
  | move {record : CallRecord} {job : EncodeJob} {outcome : EncodeOutcome} {e : ExportError}
      {w : World} (hmem : record ∈ encodes) (hcall : record.call = .encode job)
      (houtcome : encoder.outcome? record = some outcome) (hexit : outcome.exitCode = some 0)
      (hdisk : w.disk = (encoder.encode job record.before).2)
      (hmove : (persist job.output destination w).1 = .error e) :
      Blamed encoder destination images encodes e

/-- The images and the encodes of an export that asks for the images `wanted`, and its result. -/
structure Driven (encoder : Encoder) (destination : Path) (wanted : List Call)
    (images encodes : List CallRecord) (result : Except ExportError ExportReport) : Prop where
  /-- Images are asked for in their order. -/
  in_order : images.map (·.call) <+: wanted
  once : (images.map (·.call)).Nodup
  /-- An image that fails is the last, and its failure is that of the export. -/
  of_failed_image : ∀ before record after e, images = before ++ record :: after →
    encoder.failure? record = some e → after = [] ∧ encodes = [] ∧ result = .error e
  encode_once : encodes.length ≤ 1
  is_encode : ∀ record ∈ encodes, ∃ job, record.call = .encode job
  /-- The encode waits for all images. -/
  of_encode : encodes ≠ [] →
    images.map (·.call) = wanted ∧ ∀ record ∈ images, encoder.failure? record = none
  of_ok : ∀ report, result = .ok report → ∃ record outcome, encodes = [record] ∧
    encoder.outcome? record = some outcome ∧ outcome.exitCode = some 0
  /-- Neither the probe nor the search for music makes an export fail. -/
  of_error : ∀ e, result = .error e → Blamed encoder destination images encodes e

/-- An export whose images cannot all be made. -/
theorem driven_of_failed {destination : Path} {wanted : List Call} {images : List CallRecord}
    {e : ExportError} (hwanted : wanted.Nodup) (h : Attempts encoder wanted images (.error e)) :
    Driven encoder destination wanted images [] (.error e) where
  in_order := h.map_call_prefix
  once := hwanted.sublist h.map_call_prefix.sublist
  of_failed_image before record after e' hsplit hfailed := by
    obtain ⟨hlast, herror⟩ := h.last_of_failure hsplit hfailed
    exact ⟨hlast, rfl, congrArg _ (Except.error.inj herror)⟩
  encode_once := Nat.zero_le 1
  is_encode _ h := absurd h List.not_mem_nil
  of_encode h := absurd rfl h
  of_ok _ hok := by cases hok
  of_error e' herror := by
    obtain ⟨record, hrecord, hfailed⟩ := h.exists_failure
    rw [Except.error.inj herror] at hfailed
    exact .image hrecord hfailed

/-- An export that comes to its encode. -/
theorem driven_of_encode {destination : Path} {wanted : List Call} {images : List CallRecord}
    {job : EncodeJob} {before : Disk} {result : Except ExportError ExportReport}
    (hwanted : wanted.Nodup) (h : Attempts encoder wanted images (.ok ()))
    (hok : ∀ report, result = .ok report →
      ∃ outcome, (encoder.encode job before).1 = .ok outcome ∧ outcome.exitCode = some 0)
    (herror : ∀ e, result = .error e →
      Blamed encoder destination images [⟨.encode job, before⟩] e) :
    Driven encoder destination wanted images [⟨.encode job, before⟩] result where
  in_order := h.map_call_prefix
  once := hwanted.sublist h.map_call_prefix.sublist
  of_failed_image before record after e hsplit hfailed := by
    have hmade := h.all_made.2 record (hsplit ▸ by simp)
    rw [hmade] at hfailed
    cases hfailed
  encode_once := Nat.le_refl 1
  is_encode record hrecord := ⟨job, by rw [List.mem_singleton.mp hrecord]⟩
  of_encode _ := h.all_made
  of_ok report hreport := by
    obtain ⟨outcome, houtcome, hexit⟩ := hok report hreport
    exact ⟨_, outcome, rfl, congrArg Except.toOption houtcome, hexit⟩
  of_error := herror

/-- What the work in a workspace adds to the log once the source is staged. -/
theorem Course.driven {result : Except ExportError ExportReport}
    (h : Course encoder source settings request workspace w result w')
    (hclips : request.timeline.clips ≠ []) (hcrops : ∀ c ∈ request.timeline.clips, c.HasCropSize)
    (hstaged : (stage workspace request.source w).1 = .ok staged) :
    ∃ probe lengths images encodes,
      w'.calls = w.calls ++ probe :: lengths ++ images ++ encodes ∧
      probe.call = .frameSize staged ∧
      (∀ record ∈ lengths, record.call.isDuration = true) ∧
      Driven encoder request.destination
        (textCalls workspace (frameFrom settings (encoder.frameSize staged probe.before).1)
          request.timeline) images encodes result := by
  have hfirst {path : Path} {frame : Nat × Nat} {track : Option Track} {w₁ : World}
      (hopened : Opened encoder source settings request workspace w path frame track w₁) :
      path = staged := by
    obtain ⟨hstage, -, -⟩ := hopened
    rw [hstage] at hstaged
    exact Except.ok.inj hstaged
  have hend {path : Path} {frame : Nat × Nat} {track : Option Track} {plan : RenderPlan Binary64}
      {extra : List ExtraInput} {w₁ : World}
      (hprepared : Prepared encoder source settings request workspace w path frame track plan extra
        w₁) :
      ∃ probe lengths images, w₁.calls = w.calls ++ probe :: lengths ++ images ∧
        probe.call = .frameSize staged ∧ (∀ record ∈ lengths, record.call.isDuration = true) ∧
        Attempts encoder (textCalls workspace
          (frameFrom settings (encoder.frameSize staged probe.before).1) request.timeline) images
          (.ok ()) := by
    obtain ⟨hopened, hplan, hdraw⟩ := hprepared
    obtain rfl := hfirst hopened
    obtain ⟨probe, lengths, images, hcalls, hprobe, rfl, hlengths, hattempts⟩ :=
      hopened.images hplan hdraw
    exact ⟨probe, lengths, images, hcalls, hprobe, hlengths, hattempts⟩
  cases h with
  | unstaged hstage =>
    rw [hstage] at hstaged
    cases hstaged
  | unplanned hopened hplan =>
    rw [Plan.build_eq hclips fun c hc => c.pictureFilters?_isSome _ (hcrops c hc)] at hplan
    cases hplan
  | undrawn hopened hplan hdraw =>
    obtain rfl := hfirst hopened
    obtain ⟨probe, lengths, images, hcalls, hprobe, rfl, hlengths, hattempts⟩ :=
      hopened.images hplan hdraw
    exact ⟨probe, lengths, images, [], by rw [hcalls, List.append_nil], hprobe, hlengths,
      driven_of_failed (nodup_textCalls _) hattempts⟩
  | unencoded hprepared hencode =>
    obtain ⟨probe, lengths, images, hcalls, hprobe, hlengths, hattempts⟩ := hend hprepared
    obtain ⟨hfailed, rfl⟩ := Prod.mk.inj hencode
    refine ⟨probe, lengths, images, _, congrArg (· ++ _) hcalls, hprobe, hlengths,
      driven_of_encode (nodup_textCalls _) hattempts (fun _ hok => by cases hok) fun e herror => ?_⟩
    refine .encoder (List.mem_singleton_self _) ?_
    rw [← Except.error.inj herror]
    exact congrArg failureOf hfailed
  | refused hprepared hencode hexit =>
    obtain ⟨probe, lengths, images, hcalls, hprobe, hlengths, hattempts⟩ := hend hprepared
    obtain ⟨hran, rfl⟩ := Prod.mk.inj hencode
    refine ⟨probe, lengths, images, _, congrArg (· ++ _) hcalls, hprobe, hlengths,
      driven_of_encode (nodup_textCalls _) hattempts (fun _ hok => by cases hok) fun e herror => ?_⟩
    rw [← Except.error.inj herror]
    exact .exit (List.mem_singleton_self _) (congrArg Except.toOption hran)
      (of_decide_eq_false hexit)
  | unmoved hprepared hencode hexit hmove =>
    obtain ⟨probe, lengths, images, hcalls, hprobe, hlengths, hattempts⟩ := hend hprepared
    obtain ⟨hran, rfl⟩ := Prod.mk.inj hencode
    have hlog := (persist_calls hmove).trans (congrArg (· ++ _) hcalls)
    refine ⟨probe, lengths, images, _, hlog, hprobe, hlengths,
      driven_of_encode (nodup_textCalls _) hattempts (fun _ hok => by cases hok) fun e herror => ?_⟩
    rw [← Except.error.inj herror]
    exact .move (List.mem_singleton_self _) rfl (congrArg Except.toOption hran)
      (of_decide_eq_true hexit) rfl (congrArg Prod.fst hmove)
  | finished hprepared hencode hexit hmove =>
    obtain ⟨probe, lengths, images, hcalls, hprobe, hlengths, hattempts⟩ := hend hprepared
    obtain ⟨hran, rfl⟩ := Prod.mk.inj hencode
    have hlog := (persist_calls hmove).trans (congrArg (· ++ _) hcalls)
    exact ⟨probe, lengths, images, _, hlog, hprobe, hlengths,
      driven_of_encode (nodup_textCalls _) hattempts (fun _ _ => ⟨_, hran, of_decide_eq_true hexit⟩)
        fun _ herror => by cases herror⟩

/-! ### The whole run -/

/-- The first steps of an export: a workspace, and the source in it. -/
def staging (scratch : Path) (request : ExportRequest) : Run Path := do
  let workspace ← Workspace.create scratch request.id
  stage workspace request.source

theorem create_ok {scratch : Path} {id : String}
    (h : Workspace.create scratch id w = (.ok workspace, w')) :
    workspace = ⟨Workspace.directoryOf scratch id⟩ := by
  rw [Workspace.create] at h
  obtain ⟨e, -, herror⟩ | ⟨_, w₁, -, h⟩ := Run.of_bind h
  · cases herror
  · split at h
    · exact (Except.ok.inj (Prod.mk.inj h).1).symm
    · cases (Prod.mk.inj h).1
    · cases (Prod.mk.inj h).1

/-- With a workspace, an export does its work there and removes it. -/
theorem run_of_create {scratch : Path} (hclips : request.timeline.clips ≠ [])
    (hcreate : Workspace.create scratch request.id w = (.ok workspace, w')) :
    run encoder source settings scratch request w =
      ((work encoder source settings request workspace w').1,
        workspace.remove (work encoder source settings request workspace w').2) := by
  rw [run, if_neg (by simpa using hclips), Run.bind_of_ok hcreate]
  rfl

/-- An export that gets its source into its workspace probes the frame, makes images in order until
one fails, encodes once when none did, and is done when the encoder exits with code 0. -/
theorem run_driven (encoder : Encoder) (source : Option MusicSource) (settings : Settings)
    (scratch : Path) (request : ExportRequest) (disk : Disk) (staged : Path)
    (hclips : request.timeline.clips ≠ []) (hcrops : ∀ c ∈ request.timeline.clips, c.HasCropSize)
    (hstaged : (staging scratch request ⟨disk, []⟩).1 = .ok staged) :
    let (result, final) := run encoder source settings scratch request ⟨disk, []⟩
    let workspace : Workspace := ⟨Workspace.directoryOf scratch request.id⟩
    ∃ probe images encodes,
      final.calls.filter (!·.call.isDuration) = probe :: images ++ encodes ∧
      probe.call = .frameSize staged ∧
      Driven encoder request.destination
        (textCalls workspace (frameFrom settings (encoder.frameSize staged probe.before).1)
          request.timeline) images encodes result := by
  match hcreate : Workspace.create scratch request.id ⟨disk, []⟩ with
  | (.error e, w₁) =>
    rw [staging, Run.bind_of_error hcreate] at hstaged
    cases hstaged
  | (.ok workspace, w₁) =>
    rw [staging, Run.bind_of_ok hcreate] at hstaged
    rw [run_of_create hclips hcreate]
    obtain rfl := create_ok hcreate
    generalize hwork : work encoder source settings request
      ⟨Workspace.directoryOf scratch request.id⟩ w₁ = ended
    obtain ⟨result, w₂⟩ := ended
    obtain ⟨probe, lengths, images, encodes, hcalls, hprobe, hlengths, hdriven⟩ :=
      (course_of_work hwork).driven hclips hcrops hstaged
    refine ⟨probe, images, encodes, ?_, hprobe, hdriven⟩
    have himages : ∀ record ∈ images, record.call.isDuration = false := fun record hrecord =>
      not_isDuration_of_mem_textCalls
        (hdriven.in_order.subset (List.mem_map_of_mem hrecord))
    have hencodes : ∀ record ∈ encodes, record.call.isDuration = false := by
      intro record hrecord
      obtain ⟨job, hjob⟩ := hdriven.is_encode record hrecord
      rw [hjob]
      rfl
    have hlog : w₂.calls = probe :: lengths ++ images ++ encodes := by
      rw [hcalls, create_calls hcreate]
      rfl
    change w₂.calls.filter _ = _
    rw [hlog, List.filter_append, List.filter_append, List.filter_cons_of_pos (by rw [hprobe]; rfl),
      List.filter_eq_nil_iff.mpr fun record hrecord => by simp [hlengths record hrecord],
      List.filter_eq_self.mpr fun record hrecord => by rw [himages record hrecord]; rfl,
      List.filter_eq_self.mpr fun record hrecord => by rw [hencodes record hrecord]; rfl]
    rfl

/-- The probe fails, two of three texts show something, and the image of the second of them
fails. -/
theorem run_driven_of_failing_image :
    let encoder := Encoder.scripted
      { frame := .error (.unreadable "no stream"), length := .ok 60, failingOverlay := some 2
        encode := .ok ⟨some 0, ""⟩, writesOutput := true }
    let t : Timeline Binary64 :=
      { clips := [Clip.source "a" ⟨0, 10⟩]
        total := 10
        texts := [⟨⟨1, 2⟩, ⟨1, 2⟩, .text "Hello" .top⟩, ⟨⟨3, 4⟩, ⟨3, 4⟩, .text " " .center⟩,
          ⟨⟨5, 6⟩, ⟨5, 6⟩, .text "Bye" .bottom⟩]
        fades := []
        music := [⟨"calm", 0.3⟩] }
    let scratch : Path := ⟨"scratch"⟩
    let request : ExportRequest := ⟨⟨"in.mp4"⟩, t, ⟨"out.mp4"⟩, "one"⟩
    let disk := (Disk.empty []).addFile ["in.mp4"] (.new 0o644 0)
    let staged : Path := ⟨"scratch/synoid-one/input.mp4"⟩
    t.clips ≠ [] ∧ (∀ c ∈ t.clips, c.HasCropSize) ∧
      (staging scratch request ⟨disk, []⟩).1 = .ok staged ∧
      let (result, final) := run encoder none .default scratch request ⟨disk, []⟩
      let workspace : Workspace := ⟨Workspace.directoryOf scratch request.id⟩
      ∃ probe images encodes,
        final.calls.filter (!·.call.isDuration) = probe :: images ++ encodes ∧
        probe.call = .frameSize staged ∧
        Driven encoder request.destination
          (textCalls workspace (frameFrom .default (encoder.frameSize staged probe.before).1)
            request.timeline) images encodes result := by
  intro encoder t scratch request disk staged
  have hclips : t.clips ≠ [] := List.cons_ne_nil _ _
  have hcrops : ∀ c ∈ t.clips, c.HasCropSize := by decide +kernel
  have hstaged : (staging scratch request ⟨disk, []⟩).1 = .ok staged := by decide +kernel
  exact ⟨hclips, hcrops, hstaged, run_driven encoder none .default scratch request disk staged
    hclips hcrops hstaged⟩

end Montage.Export
