import Montage.Proofs.Encoder.Arguments
import Montage.Proofs.Export.Order
import Montage.Proofs.Plan.Inputs

/-! The inputs of an encode are those of the plan. The plan, the images, the job and the command
line each number them, and all number them alike. -/
namespace Montage.Export

variable {encoder : Encoder} {source : Option MusicSource} {settings : Settings}
  {request : ExportRequest} {workspace : Workspace} {frame : Nat × Nat} {track : Option Track}
  {staged : Path} {w w' : World} {log : List CallRecord}

/-! ### What an input is read from -/

/-- The file of an extra input is the one that the plan's input calls for. -/
def Feeds (log : List CallRecord) (frame : Nat × Nat) (track : Option Track) :
    PlanInput Binary64 → ExtraInput → Prop
  | .source, _ => False
  | .textImage overlay words position seconds, given => given.mode = .still seconds ∧
    ∃ record ∈ log,
      record.call = .textImage ⟨overlay, words, position, frame.1, frame.2⟩ given.path
  | .music .., given => given.mode = .stream ∧ ∃ found, track = some found ∧ given.path = found.path

/-- The inputs of an encode agree with those of its plan. -/
structure Numbered (settings : Settings) (log : List CallRecord) (staged : Path)
    (frame : Nat × Nat) (track : Option Track) (plan : RenderPlan Binary64) (total : Binary64)
    (job : EncodeJob) : Prop where
  /-- Input 0 is the staged source, and each further input is read from the file it calls for. -/
  inputs : ∃ extra, plan.inputs = .source :: extra ∧ job.source = staged ∧
    List.Forall₂ (Feeds log frame track) extra job.extraInputs
  /-- No two images are in one file. -/
  images : ((job.extraInputs.filter (·.mode ≠ .stream)).map (·.path)).Nodup
  /-- The command line gives one input for each, in their order. -/
  arguments : Argument.inputs (job.arguments settings) =
    ⟨[], staged.guarded.text⟩ :: job.extraInputs.map fun input =>
      ⟨input.mode.given, input.path.guarded.text⟩
  /-- The graph reads the picture of every text image once, and no other. -/
  pictures : ∀ k, (Label.ofText job.description).count (Decimal.natural (k + 1) ++ ":v") =
    if plan.inputs[k + 1]?.any PlanInput.isTextImage then 1 else 0
  /-- The graph reads the sound of the music once, and no other. -/
  sounds : ∀ k, (Label.ofText job.description).count (Decimal.natural (k + 1) ++ ":a") =
    if plan.inputs[k + 1]?.any PlanInput.isMusic then 1 else 0
  /-- Nothing else of an input is read. -/
  named : ∀ label ∈ Label.ofText job.description, ∀ c, label.toList.head? = some c →
    c.isDigit = true → ∃ k, label = Decimal.natural k ++ ":v" ∨ label = Decimal.natural k ++ ":a"
  cap : job.cap = if job.extraInputs = [] then none else some total

theorem forall₂_feeds {number : Nat} {inputs : List (PlanInput Binary64)}
    (hsource : ∀ input ∈ inputs, input ≠ .source)
    (hmusic : ∀ input ∈ inputs, input.isMusic = true → track.isSome)
    (himages : ∀ call ∈ imageCalls workspace frame number inputs, ∃ record ∈ log,
      record.call = call) :
    List.Forall₂ (Feeds log frame track) inputs (extrasOf workspace track number inputs) := by
  induction inputs generalizing number with
  | nil => exact .nil
  | cons input rest ih =>
    have hrest := @ih (number + 1) (fun other h => hsource other (List.mem_cons_of_mem input h))
      fun other h => hmusic other (List.mem_cons_of_mem input h)
    cases input with
    | source => exact absurd rfl (hsource .source List.mem_cons_self)
    | textImage overlay words position seconds =>
      exact .cons ⟨rfl, himages _ List.mem_cons_self⟩
        (hrest fun call h => himages call (List.mem_cons_of_mem _ h))
    | music keywords volume =>
      obtain ⟨found, hfound⟩ := Option.isSome_iff_exists.mp
        (hmusic (.music keywords volume) List.mem_cons_self rfl)
      have hall := hrest himages
      rw [extrasOf, hfound]
      rw [hfound] at hall
      exact .cons ⟨rfl, found, rfl, rfl⟩ hall

/-- Images have names of their own. -/
theorem imageFile_injective (workspace : Workspace) :
    Function.Injective fun number => workspace.file (imageName number) := by
  intro i j h
  have hrelative (number : Nat) : (⟨imageName number⟩ : Path).isAbsolute = false := by
    simp [Path.isAbsolute, imageName]
  have hnames : imageName i = imageName j := by
    simp only [Workspace.file, Path.join, hrelative, Bool.false_eq_true, false_or] at h
    split at h
    · exact Path.mk.inj h
    · split at h <;> simpa using h
  simp only [imageName, String.append_left_inj, String.append_right_inj] at hnames
  exact Decimal.digits_injective (String.ofList_injective hnames)

theorem nodup_images {number : Nat} {inputs : List (PlanInput Binary64)} :
    (((extrasOf workspace track number inputs).filter (·.mode ≠ .stream)).map (·.path)).Nodup ∧
      ∀ path ∈ ((extrasOf workspace track number inputs).filter (·.mode ≠ .stream)).map (·.path),
        ∃ later ≥ number, path = workspace.file (imageName later) := by
  induction inputs generalizing number with
  | nil => exact ⟨List.nodup_nil, fun _ h => absurd h List.not_mem_nil⟩
  | cons input rest ih =>
    obtain ⟨hnodup, hpaths⟩ := @ih (number + 1)
    have hlater : ∀ path ∈ ((extrasOf workspace track (number + 1) rest).filter
        (·.mode ≠ .stream)).map (·.path), ∃ later ≥ number,
          path = workspace.file (imageName later) := fun path h =>
      let ⟨later, hlater, hpath⟩ := hpaths path h
      ⟨later, Nat.le_of_succ_le hlater, hpath⟩
    cases input with
    | source => exact ⟨hnodup, hlater⟩
    | music keywords volume =>
      have hnone : (track.toList.map fun found => (⟨found.path, .stream⟩ : ExtraInput)).filter
          (·.mode ≠ .stream) = [] := by
        cases track <;> simp
      rw [extrasOf, List.filter_append, hnone, List.nil_append]
      exact ⟨hnodup, hlater⟩
    | textImage overlay words position seconds =>
      rw [extrasOf, List.filter_cons_of_pos (by simp), List.map_cons]
      refine ⟨List.nodup_cons.mpr ⟨fun hmem => ?_, hnodup⟩,
        List.forall_mem_cons.mpr ⟨⟨number, Nat.le_refl _, rfl⟩, hlater⟩⟩
      obtain ⟨later, hlater, hsame⟩ := hpaths _ hmem
      have hnumber : number = later := imageFile_injective workspace hsame
      omega

/-! ### The plan -/

theorem Plan.inputs_eq_cons (t : Timeline Binary64) (options : PlanOptions) :
    Plan.inputs t options = .source :: (Plan.inputs t options).tail := rfl

theorem Plan.of_mem_tail {t : Timeline Binary64} {options : PlanOptions}
    {input : PlanInput Binary64} (h : input ∈ (Plan.inputs t options).tail) :
    input ≠ .source ∧ input.isLooped = true ∧ (input.isMusic = true → options.mixMusic = true) := by
  rcases List.mem_append.mp h with h | h
  · obtain ⟨c, -, rfl⟩ := List.mem_map.mp h
    exact ⟨nofun, rfl, nofun⟩
  · obtain ⟨music, hmusic, rfl⟩ := List.mem_map.mp h
    refine ⟨nofun, rfl, fun _ => ?_⟩
    by_contra hoff
    rw [Plan.mixedMusic?, if_neg hoff] at hmusic
    cases hmusic

/-- The output is capped exactly when something else than the source is read. -/
theorem cap_eq {t : Timeline Binary64} {options : PlanOptions} {extra : List ExtraInput}
    (h : List.Forall₂ (Feeds log frame track) (Plan.inputs t options).tail extra) :
    (if (Plan.inputs t options).any PlanInput.isLooped then some t.total else none) =
      if extra = [] then none else some t.total := by
  have hlooped := fun input (h : input ∈ (Plan.inputs t options).tail) => (Plan.of_mem_tail h).2.1
  rw [Plan.inputs_eq_cons]
  generalize (Plan.inputs t options).tail = rest at h hlooped
  cases h with
  | nil => rfl
  | cons _ _ =>
    have hfirst := hlooped _ List.mem_cons_self
    rw [if_neg (List.cons_ne_nil _ _), if_pos (by simp [hfirst])]

theorem numbered_of_prepared {plan : RenderPlan Binary64} {extra : List ExtraInput} {w₁ : World}
    (h : Prepared encoder source settings request workspace w staged frame track plan extra w₁)
    (hclips : request.timeline.clips ≠ []) (hcrops : ∀ c ∈ request.timeline.clips, c.HasCropSize)
    (hlog : ∀ record ∈ w₁.calls, record ∈ log) :
    Numbered settings log staged frame track plan request.timeline.total
      (jobOf request workspace staged plan extra) := by
  obtain ⟨hopened, hplan, hdraw⟩ := h
  obtain ⟨images, hcalls, hattempts, hextra⟩ := extraInputs_calls hdraw
  obtain rfl := hextra extra rfl
  obtain ⟨options, hoptions⟩ : ∃ options : PlanOptions,
    options = ⟨frame.1, frame.2, track.isSome⟩ := ⟨_, rfl⟩
  rw [← hoptions, Plan.build_eq hclips fun c hc =>
    c.pictureFilters?_isSome _ (hcrops c hc)] at hplan
  obtain rfl := (Except.ok.inj hplan).symm
  set t := request.timeline
  have hfeeds : List.Forall₂ (Feeds log frame track) (Plan.inputs t options).tail
      (extrasOf workspace track 1 (Plan.inputs t options).tail) := by
    refine forall₂_feeds (fun input h => (Plan.of_mem_tail h).1) (fun input h hmusic => ?_) ?_
    · have hmix := (Plan.of_mem_tail h).2.2 hmusic
      rw [hoptions] at hmix
      exact hmix
    · intro call hcall
      have hcall : call ∈ images.map (·.call) := hattempts.all_made.1 ▸ hcall
      obtain ⟨record, hrecord, rfl⟩ := List.mem_map.mp hcall
      exact ⟨record, hlog record (hcalls ▸ List.mem_append_right _ hrecord), rfl⟩
  exact
    { inputs := ⟨(Plan.inputs t options).tail, rfl, rfl, hfeeds⟩
      images := nodup_images.1
      arguments := EncodeJob.inputs_arguments settings _
      pictures := Plan.count_picture t options
      sounds := Plan.count_sound t options
      named := fun label hlabel c hc hdigit => Plan.isInputPad_of_isDigit hlabel hc hdigit
      cap := cap_eq hfeeds }

/-! ### The encode of a run -/

theorem Opened.not_encode {w₁ : World}
    (h : Opened encoder source settings request workspace w staged frame track w₁)
    {record : CallRecord} (hrecord : record ∈ w₁.calls) (hnew : record ∉ w.calls)
    (job : EncodeJob) : record.call ≠ .encode job := by
  obtain ⟨probe, lengths, hcalls, hprobe, -, hlengths⟩ := h.calls
  rw [hcalls] at hrecord
  rcases List.mem_append.mp hrecord with hold | hrecord
  · exact absurd hold hnew
  rcases List.mem_cons.mp hrecord with rfl | hlength
  · rw [hprobe]
    exact nofun
  · intro hjob
    have hduration := hlengths record hlength
    rw [hjob] at hduration
    cases hduration

theorem not_encode_of_images {plan : RenderPlan Binary64} {w₁ : World}
    {result : Except ExportError (List ExtraInput)}
    (hopened : Opened encoder source settings request workspace w staged frame track w₁)
    (hdraw : extraInputs encoder workspace frame track 0 plan.inputs w₁ = (result, w'))
    {record : CallRecord} (hrecord : record ∈ w'.calls) (hnew : record ∉ w.calls)
    (job : EncodeJob) : record.call ≠ .encode job := by
  obtain ⟨images, hcalls, hattempts, -⟩ := extraInputs_calls hdraw
  rw [hcalls] at hrecord
  rcases List.mem_append.mp hrecord with hrecord | himage
  · exact hopened.not_encode hrecord hnew job
  · obtain ⟨imageJob, output, hcall⟩ := exists_textImage_of_mem
      (hattempts.map_call_prefix.subset (List.mem_map_of_mem himage))
    rw [hcall]
    exact nofun

/-- Only the encode of a prepared job is an encode. -/
theorem Course.exists_prepared {result : Except ExportError ExportReport}
    (h : Course encoder source settings request workspace w result w') {record : CallRecord}
    (hrecord : record ∈ w'.calls) (hnew : record ∉ w.calls) {job : EncodeJob}
    (hjob : record.call = .encode job) :
    ∃ staged frame track plan extra w₁,
      Prepared encoder source settings request workspace w staged frame track plan extra w₁ ∧
      job = jobOf request workspace staged plan extra ∧ ∀ other ∈ w₁.calls, other ∈ w'.calls := by
  have hlast {staged : Path} {frame : Nat × Nat} {track : Option Track}
      {plan : RenderPlan Binary64} {extra : List ExtraInput} {w₁ : World}
      (hprepared : Prepared encoder source settings request workspace w staged frame track plan
        extra w₁) (hcalls : w'.calls = w₁.calls ++
          [⟨.encode (jobOf request workspace staged plan extra), w₁.disk⟩]) :
      ∃ staged frame track plan extra w₁,
        Prepared encoder source settings request workspace w staged frame track plan extra w₁ ∧
        job = jobOf request workspace staged plan extra ∧
          ∀ other ∈ w₁.calls, other ∈ w'.calls := by
    refine ⟨staged, frame, track, plan, extra, w₁, hprepared, ?_, fun other hother =>
      hcalls ▸ List.mem_append_left _ hother⟩
    rw [hcalls] at hrecord
    rcases List.mem_append.mp hrecord with hearly | hrecord
    · obtain ⟨hopened, -, hdraw⟩ := hprepared
      exact absurd hjob (not_encode_of_images hopened hdraw hearly hnew job)
    · rw [List.mem_singleton.mp hrecord] at hjob
      exact (Call.encode.inj hjob).symm
  cases h with
  | unstaged hstage =>
    rw [stage_calls hstage] at hrecord
    exact absurd hrecord hnew
  | unplanned hopened _ => exact absurd hjob (hopened.not_encode hrecord hnew job)
  | undrawn hopened _ hdraw =>
    exact absurd hjob (not_encode_of_images hopened hdraw hrecord hnew job)
  | unencoded hprepared hencode =>
    exact hlast hprepared (congrArg World.calls (Prod.mk.inj hencode).2.symm)
  | refused hprepared hencode _ =>
    exact hlast hprepared (congrArg World.calls (Prod.mk.inj hencode).2.symm)
  | unmoved hprepared hencode _ hmove =>
    exact hlast hprepared ((persist_calls hmove).trans
      (congrArg World.calls (Prod.mk.inj hencode).2.symm))
  | finished hprepared hencode _ hmove =>
    exact hlast hprepared ((persist_calls hmove).trans
      (congrArg World.calls (Prod.mk.inj hencode).2.symm))

theorem Opened.resolved {w₁ : World}
    (h : Opened encoder source settings request workspace w staged frame track w₁) :
    ∃ before, Resolved encoder source request.timeline before track := by
  obtain ⟨-, -, htrack⟩ := h
  obtain ⟨found, w₂, hfound, hresolved, -⟩ := trackOf_ok encoder source request.timeline _
  rw [hfound] at htrack
  cases htrack
  exact ⟨_, hresolved⟩

/-- The encode of an export reads the inputs of the plan under their numbers. -/
theorem run_numbered (encoder : Encoder) (source : Option MusicSource) (settings : Settings)
    (scratch : Path) (request : ExportRequest) (disk : Disk) (record : CallRecord) (job : EncodeJob)
    (hclips : request.timeline.clips ≠ []) (hcrops : ∀ c ∈ request.timeline.clips, c.HasCropSize)
    (hrecord : record ∈ (run encoder source settings scratch request ⟨disk, []⟩).2.calls)
    (hjob : record.call = .encode job) :
    ∃ staged frame track plan before,
      (staging scratch request ⟨disk, []⟩).1 = .ok staged ∧
      Resolved encoder source request.timeline before track ∧
      Plan.build request.timeline ⟨frame.1, frame.2, track.isSome⟩ = .ok plan ∧
      Numbered settings (run encoder source settings scratch request ⟨disk, []⟩).2.calls staged
        frame track plan request.timeline.total job := by
  match hcreate : Workspace.create scratch request.id ⟨disk, []⟩ with
  | (.error e, w₁) =>
    rw [run, if_neg (by simpa using hclips), Run.bind_of_error hcreate] at hrecord
    exact absurd (create_calls hcreate ▸ hrecord) List.not_mem_nil
  | (.ok workspace, w₁) =>
    rw [run_of_create hclips hcreate] at hrecord ⊢
    generalize hwork : work encoder source settings request workspace w₁ = ended at hrecord ⊢
    obtain ⟨result, w₂⟩ := ended
    have hnew : record ∉ w₁.calls := by
      rw [create_calls hcreate]
      exact List.not_mem_nil
    obtain ⟨staged, frame, track, plan, extra, w₃, hprepared, rfl, hlog⟩ :=
      (course_of_work hwork).exists_prepared hrecord hnew hjob
    have hnumbered := numbered_of_prepared hprepared hclips hcrops hlog
    obtain ⟨hopened, hplan, -⟩ := hprepared
    obtain ⟨before, hresolved⟩ := hopened.resolved
    obtain ⟨hstage, -, -⟩ := hopened
    have hstaged : (staging scratch request ⟨disk, []⟩).1 = .ok staged := by
      rw [staging, Run.bind_of_ok hcreate, hstage]
    exact ⟨staged, frame, track, plan, before, hstaged, hresolved, hplan, hnumbered⟩

/-- Two texts, one of them blank, and music. -/
theorem run_numbered_of_music :
    let encoder := Encoder.scripted
      { frame := .ok (640, 360), length := .ok 60, failingOverlay := none
        encode := .ok ⟨some 0, ""⟩, writesOutput := true }
    let source : MusicSource := fun _ _ => .ok ⟨⟨"calm.mp3"⟩, none⟩
    let t : Timeline Binary64 :=
      { clips := [Clip.source "a" ⟨0, 10⟩]
        total := 10
        texts := [⟨⟨1, 2⟩, ⟨1, 2⟩, .text " " .top⟩, ⟨⟨3, 4⟩, ⟨3, 4⟩, .text "Hello" .center⟩]
        fades := []
        music := [⟨"calm", 0.3⟩] }
    let scratch : Path := ⟨"scratch"⟩
    let request : ExportRequest := ⟨⟨"in.mp4"⟩, t, ⟨"out.mp4"⟩, "one"⟩
    let disk := (Disk.empty []).addFile ["in.mp4"] (.new 0o644 0)
    let calls := (run encoder source .default scratch request ⟨disk, []⟩).2.calls
    t.clips ≠ [] ∧ (∀ c ∈ t.clips, c.HasCropSize) ∧
      ∃ record job, record ∈ calls ∧ record.call = .encode job ∧
        ∃ staged frame track plan before,
          (staging scratch request ⟨disk, []⟩).1 = .ok staged ∧
          Resolved encoder source t before track ∧
          Plan.build t ⟨frame.1, frame.2, track.isSome⟩ = .ok plan ∧
          Numbered .default calls staged frame track plan t.total job := by
  intro encoder source t scratch request disk calls
  have hclips : t.clips ≠ [] := List.cons_ne_nil _ _
  have hcrops : ∀ c ∈ t.clips, c.HasCropSize := by decide +kernel
  have hencode : (calls.findSome? fun record => record.call.job?).isSome = true := by decide +kernel
  obtain ⟨job, hjob⟩ := Option.isSome_iff_exists.mp hencode
  obtain ⟨record, hrecord, hjob⟩ := List.exists_of_findSome?_eq_some hjob
  have hcall := Call.eq_encode_of_job? hjob
  exact ⟨hclips, hcrops, record, job, hrecord, hcall, run_numbered encoder source .default scratch
    request disk record job hclips hcrops hrecord hcall⟩

end Montage.Export
