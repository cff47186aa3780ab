import Montage.Proofs.Export.Agree
import Montage.Proofs.Export.Inputs
import Montage.Proofs.Plan.Words

/-! What an encode is asked for does not depend on words, nor on music that is not found. -/
namespace Montage.Export

variable {encoder : Encoder} {source : Option MusicSource} {settings : Settings} {scratch : Path}
  {request : ExportRequest} {workspace : Workspace} {disk : Disk} {w : World}

/-- The same request without music. -/
def withoutMusic (request : ExportRequest) : ExportRequest :=
  { request with timeline := { request.timeline with music := [] } }

/-- The export goes on without a track, whatever music its timeline asks for. -/
def Trackless (encoder : Encoder) (source : Option MusicSource) (settings : Settings)
    (scratch : Path) (request : ExportRequest) (disk : Disk) : Prop :=
  ∀ workspace w staged frame track w',
    Workspace.create scratch request.id ⟨disk, []⟩ = (.ok workspace, w) →
    Opened encoder source settings request workspace w staged frame track w' → track = none

theorem trackOf_none_of_resolve_fails {t : Timeline Binary64} {track : Option Track} {w' : World}
    (h : ∀ find ∈ source, ∀ music ∈ t.music.head?, ∀ found,
      (Music.resolve encoder find music.keywords w).1 ≠ .ok found)
    (htrack : trackOf encoder source t w = (.ok track, w')) : track = none := by
  obtain ⟨found, w₁, hfound, hresolved, -⟩ := trackOf_ok encoder source t w
  obtain ⟨hsame, -⟩ := Prod.mk.inj (htrack.symm.trans hfound)
  obtain rfl := Except.ok.inj hsame
  cases track with
  | none => rfl
  | some found =>
    obtain ⟨find, music, hfind, hmusic, hok⟩ := hresolved found rfl
    exact absurd hok (h find hfind music hmusic found)

/-- There is no track where the source of music finds none. -/
theorem trackless_of_resolve_fails
    (h : ∀ find ∈ source, ∀ music ∈ request.timeline.music.head?, ∀ w found,
      (Music.resolve encoder find music.keywords w).1 ≠ .ok found) :
    Trackless encoder source settings scratch request disk := by
  intro workspace w staged frame track w' _ hopened
  obtain ⟨-, -, htrack⟩ := hopened
  exact trackOf_none_of_resolve_fails
    (fun find hfind music hmusic => h find hfind music hmusic _) htrack

theorem trackless_withoutMusic :
    Trackless encoder source settings scratch (withoutMusic request) disk :=
  trackless_of_resolve_fails fun _ _ _ hmusic => absurd hmusic (Option.not_mem_none _)

/-- The steps before music is looked for do not depend on music. -/
theorem Opened.withoutMusic {staged staged' : Path} {frame frame' : Nat × Nat}
    {track track' : Option Track} {w₁ w₂ : World}
    (h : Opened encoder source settings request workspace w staged frame track w₁)
    (h' : Opened encoder source settings (withoutMusic request) workspace w staged' frame' track'
      w₂) : staged = staged' ∧ frame = frame' := by
  obtain ⟨hstage, hframe, -⟩ := h
  obtain ⟨hstage', hframe', -⟩ := h'
  obtain ⟨hstaged, rfl⟩ := Prod.mk.inj (hstage.symm.trans hstage')
  obtain rfl := Except.ok.inj hstaged
  obtain ⟨hsame, -⟩ := Prod.mk.inj (hframe.symm.trans hframe')
  exact ⟨rfl, Except.ok.inj hsame⟩

/-- Without a track, the job is that of a request without music. -/
theorem Prepared.jobOf_withoutMusic {staged staged' : Path} {frame frame' : Nat × Nat}
    {plan plan' : RenderPlan Binary64} {extra extra' : List ExtraInput} {w₁ w₂ : World}
    (h : Prepared encoder source settings request workspace w staged frame none plan extra w₁)
    (h' : Prepared encoder source settings (withoutMusic request) workspace w staged' frame' none
      plan' extra' w₂) :
    jobOf request workspace staged plan extra =
      jobOf (withoutMusic request) workspace staged' plan' extra' := by
  obtain ⟨hopened, hplan, hdraw⟩ := h
  obtain ⟨hopened', hplan', hdraw'⟩ := h'
  obtain ⟨rfl, rfl⟩ := hopened.withoutMusic hopened'
  rw [Plan.build_without_music _ _ rfl] at hplan
  obtain rfl := Except.ok.inj (hplan.symm.trans hplan')
  obtain ⟨-, -, -, hextra⟩ := extraInputs_calls hdraw
  obtain ⟨-, -, -, hextra'⟩ := extraInputs_calls hdraw'
  rw [hextra extra rfl, hextra' extra' rfl]
  rfl

/-- An encode of a run is the encode of a prepared job. -/
theorem exists_prepared_of_run {record : CallRecord} {job : EncodeJob}
    (hrecord : record ∈ (run encoder source settings scratch request ⟨disk, []⟩).2.calls)
    (hjob : record.call = .encode job) :
    ∃ workspace w staged frame track plan extra w',
      Workspace.create scratch request.id ⟨disk, []⟩ = (.ok workspace, w) ∧
      Prepared encoder source settings request workspace w staged frame track plan extra w' ∧
      job = jobOf request workspace staged plan extra := by
  by_cases hclips : request.timeline.clips = []
  · rw [run, if_pos (by simp [hclips])] at hrecord
    exact absurd hrecord List.not_mem_nil
  rcases hcreate : Workspace.create scratch request.id ⟨disk, []⟩ with ⟨e | workspace, w₁⟩
  · rw [run, if_neg (by simpa using hclips), Run.bind_of_error hcreate] at hrecord
    exact absurd (create_calls hcreate ▸ hrecord) List.not_mem_nil
  · rw [run_of_create hclips hcreate] at hrecord
    generalize hwork : work encoder source settings request workspace w₁ = ended at hrecord
    obtain ⟨result, w₂⟩ := ended
    have hnew : record ∉ w₁.calls := by
      rw [create_calls hcreate]
      exact List.not_mem_nil
    obtain ⟨staged, frame, track, plan, extra, w₃, hprepared, rfl, -⟩ :=
      (course_of_work hwork).exists_prepared hrecord hnew hjob
    exact ⟨workspace, w₁, staged, frame, track, plan, extra, w₃, rfl, hprepared, rfl⟩

theorem job_of_trackless {record record' : CallRecord} {job job' : EncodeJob}
    (h : Trackless encoder source settings scratch request disk)
    (hrecord : record ∈ (run encoder source settings scratch request ⟨disk, []⟩).2.calls)
    (hjob : record.call = .encode job)
    (hrecord' : record' ∈
      (run encoder source settings scratch (withoutMusic request) ⟨disk, []⟩).2.calls)
    (hjob' : record'.call = .encode job') : job = job' := by
  obtain ⟨workspace, w, staged, frame, track, plan, extra, w₁, hcreate, hprepared, rfl⟩ :=
    exists_prepared_of_run hrecord hjob
  obtain ⟨workspace', w', staged', frame', track', plan', extra', w₂, hcreate', hprepared', rfl⟩ :=
    exists_prepared_of_run hrecord' hjob'
  have hsame : Workspace.create scratch request.id ⟨disk, []⟩ = (.ok workspace', w') := hcreate'
  obtain ⟨hworkspace, rfl⟩ := Prod.mk.inj (hcreate.symm.trans hsame)
  obtain rfl := Except.ok.inj hworkspace
  obtain rfl : track = none := by
    obtain ⟨hopened, -, -⟩ := hprepared
    exact h _ _ _ _ _ _ hcreate hopened
  obtain rfl : track' = none := by
    obtain ⟨hopened, -, -⟩ := hprepared'
    exact trackless_withoutMusic _ _ _ _ _ _ hcreate' hopened
  exact hprepared.jobOf_withoutMusic hprepared'

/-- From an opened workspace without a track, the work goes on as without music. -/
theorem work_agrees (hquiet : ∀ path d, (encoder.duration path d).2 = d)
    (h : ∀ staged frame track w',
      Opened encoder source settings request workspace w staged frame track w' → track = none) :
    (work encoder source settings request workspace w).1 =
        (work encoder source settings (withoutMusic request) workspace w).1 ∧
      (work encoder source settings request workspace w).2.Agree
        (work encoder source settings (withoutMusic request) workspace w).2 := by
  rw [work, work]
  rcases hstage : stage workspace request.source w with ⟨e | staged, w₁⟩
  · have hstage' : stage workspace (withoutMusic request).source w = (.error e, w₁) := hstage
    rw [Run.bind_of_error hstage, Run.bind_of_error hstage']
    exact ⟨rfl, .refl w₁⟩
  have hstage' : stage workspace (withoutMusic request).source w = (.ok staged, w₁) := hstage
  have hframe := frameOf_eq encoder settings staged w₁
  generalize frameFrom settings (encoder.frameSize staged w₁.disk).1 = frame at hframe
  obtain ⟨w₂, hframe⟩ : ∃ w₂, frameOf encoder settings staged w₁ = (.ok frame, w₂) := ⟨_, hframe⟩
  obtain ⟨track, w₃, htrack, -, hworld⟩ := trackOf_ok encoder source request.timeline w₂
  obtain rfl : track = none := h _ _ _ _ (.intro hstage hframe htrack)
  have htrack' : trackOf encoder source (withoutMusic request).timeline w₂ = (.ok none, w₂) := by
    cases source <;> rfl
  have hagree : w₃.Agree w₂ := by
    rcases hworld with rfl | ⟨path, rfl⟩
    · exact .refl w₃
    · exact .of_duration hquiet path w₂
  have hplan : Plan.build request.timeline ⟨frame.1, frame.2, false⟩ =
      Plan.build (withoutMusic request).timeline ⟨frame.1, frame.2, false⟩ :=
    Plan.build_without_music _ _ rfl
  rw [Run.bind_of_ok hstage, Run.bind_of_ok hstage', Run.bind_of_ok hframe, Run.bind_of_ok hframe,
    Run.bind_of_ok htrack, Run.bind_of_ok htrack', Option.isSome_none, hplan]
  refine Run.Agree.bind (Run.agree_ofExcept _) (fun plan => ?_) w₃ w₂ hagree
  refine (agree_extraInputs encoder workspace frame none 0 plan.inputs).bind fun extra => ?_
  refine (Run.agree_record _ _).bind fun outcome => ?_
  split
  · exact (agree_persist _ _).bind fun _ => Run.agree_pure _
  · exact Run.agree_fail _

/-- An export that finds no track ends as one that asks for no music, and makes the same calls but
for lengths. -/
theorem run_agrees (hquiet : ∀ path d, (encoder.duration path d).2 = d)
    (h : Trackless encoder source settings scratch request disk) :
    (run encoder source settings scratch request ⟨disk, []⟩).1 =
        (run encoder source settings scratch (withoutMusic request) ⟨disk, []⟩).1 ∧
      (run encoder source settings scratch request ⟨disk, []⟩).2.Agree
        (run encoder source settings scratch (withoutMusic request) ⟨disk, []⟩).2 := by
  by_cases hclips : request.timeline.clips = []
  · have hempty : (withoutMusic request).timeline.clips.isEmpty = true := by
      rw [List.isEmpty_iff]
      exact hclips
    rw [run, run, if_pos (by simp [hclips]), if_pos hempty]
    exact ⟨rfl, .refl _⟩
  rcases hcreate : Workspace.create scratch request.id ⟨disk, []⟩ with ⟨e | workspace, w⟩
  · have hcreate' : Workspace.create scratch (withoutMusic request).id ⟨disk, []⟩ =
        (.error e, w) := hcreate
    rw [run, run, if_neg (by simpa using hclips), if_neg (by simpa [withoutMusic] using hclips),
      Run.bind_of_error hcreate, Run.bind_of_error hcreate']
    exact ⟨rfl, .refl w⟩
  · have hcreate' : Workspace.create scratch (withoutMusic request).id ⟨disk, []⟩ =
        (.ok workspace, w) := hcreate
    have hrun' : run encoder source settings scratch (withoutMusic request) ⟨disk, []⟩ =
        ((work encoder source settings (withoutMusic request) workspace w).1,
          workspace.remove (work encoder source settings (withoutMusic request) workspace w).2) :=
      run_of_create hclips hcreate'
    obtain ⟨hresult, hworld⟩ := work_agrees hquiet fun staged frame track w' =>
      h workspace w staged frame track w' hcreate
    rw [run_of_create hclips hcreate, hrun']
    exact ⟨hresult, congrArg (fun d => (d.removeTree workspace.directory).2) hworld.disk,
      hworld.calls⟩

/-- Words change nothing of a plan but its inputs. Without mixing, music changes nothing at all, so
that an export that finds no track asks for the encode of a request without music. When asking for
lengths leaves the disk alone, it also ends as that request does, after the same calls but for
lengths. -/
theorem words_change_inputs_only (t t' : Timeline Binary64) (hwords : t.SameButWords t') :
    (∀ options, (Plan.build t options).map Plan.outline =
      (Plan.build t' options).map Plan.outline) ∧
    (∀ options, options.mixMusic = false →
      Plan.build t options = Plan.build { t with music := [] } options) ∧
    ∀ encoder source settings scratch request disk,
      Trackless encoder source settings scratch request disk →
      let ended := run encoder source settings scratch request ⟨disk, []⟩
      let plain := run encoder source settings scratch (withoutMusic request) ⟨disk, []⟩
      (∀ record ∈ ended.2.calls, ∀ record' ∈ plain.2.calls, ∀ job job',
        record.call = .encode job → record'.call = .encode job' → job = job') ∧
      ((∀ path d, (encoder.duration path d).2 = d) →
        ended.1 = plain.1 ∧ ended.2.Agree plain.2) := by
  refine ⟨Plan.map_outline_build_congr hwords, Plan.build_without_music t, ?_⟩
  intro _ _ _ _ _ _ htrackless
  refine ⟨fun _ hrecord _ hrecord' _ _ hjob hjob' => ?_, fun hquiet => ?_⟩
  · exact job_of_trackless htrackless hrecord hjob hrecord' hjob'
  · exact run_agrees hquiet htrackless

/-- Words with all that a graph could take for its own, and music that is not found. -/
theorem words_change_inputs_only_of_marks :
    let texts (words blank : String) : List (Overlay Binary64) :=
      [⟨⟨1, 2⟩, ⟨1, 2⟩, .text words .top⟩, ⟨⟨3, 4⟩, ⟨3, 4⟩, .text blank .center⟩]
    let t : Timeline Binary64 :=
      ⟨[Clip.source "a" ⟨0, 10⟩], 10, texts "Hello" "", [⟨⟨0, 1⟩, ⟨0, 1⟩, .fade .fadeIn⟩],
        [⟨"calm", 0.3⟩]⟩
    let t' : Timeline Binary64 :=
      { t with
        texts := texts "a;[outv]b,\x27c:d\\" " "
        music := [⟨"];[", 0.3⟩, ⟨"more", 1⟩] }
    let encoder := Encoder.scripted
      { frame := .ok (640, 360), length := .ok 60, failingOverlay := none
        encode := .ok ⟨some 0, ""⟩, writesOutput := true }
    let source : MusicSource := fun _ _ => .error (.music "none")
    let scratch : Path := ⟨"scratch"⟩
    let request : ExportRequest := ⟨⟨"in.mp4"⟩, t, ⟨"out.mp4"⟩, "one"⟩
    let disk := (Disk.empty []).addFile ["in.mp4"] (.new 0o644 0)
    t.SameButWords t' ∧
      (Plan.build t .default).map Plan.outline = (Plan.build t' .default).map Plan.outline ∧
      Plan.build t ⟨640, 360, false⟩ = Plan.build { t with music := [] } ⟨640, 360, false⟩ ∧
      Trackless encoder (some source) .default scratch request disk ∧
      let ended := run encoder (some source) .default scratch request ⟨disk, []⟩
      let plain := run encoder (some source) .default scratch (withoutMusic request) ⟨disk, []⟩
      (∃ record ∈ ended.2.calls, ∃ record' ∈ plain.2.calls, ∃ job,
        record.call = .encode job ∧ record'.call = .encode job) ∧
      ended.1.isOk = true ∧ ended.1 = plain.1 ∧ ended.2.Agree plain.2 := by
  intro texts t t' encoder source scratch request disk
  have hwords : t.SameButWords t' :=
    { clips := rfl
      total := rfl
      texts := .cons (.text (by decide +kernel)) (.cons (.text (by decide +kernel)) .nil)
      fades := .cons (.same _) .nil
      volume := rfl }
  have htrackless : Trackless encoder (some source) .default scratch request disk := by
    refine trackless_of_resolve_fails fun find hfind music _ w found hok => ?_
    obtain rfl : source = find := Option.some.inj hfind
    cases hok
  obtain ⟨hplans, hmusic, hruns⟩ := words_change_inputs_only t t' hwords
  obtain ⟨hjobs, hends⟩ := hruns encoder (some source) .default scratch request disk htrackless
  obtain ⟨hresult, hagree⟩ := hends fun _ _ => rfl
  have hok : (run encoder (some source) .default scratch request ⟨disk, []⟩).1.isOk = true := by
    decide +kernel
  have hencode : ((run encoder (some source) .default scratch request
      ⟨disk, []⟩).2.calls.findSome? fun record => record.call.job?).isSome = true := by
    decide +kernel
  have hencode' : ((run encoder (some source) .default scratch (withoutMusic request)
      ⟨disk, []⟩).2.calls.findSome? fun record => record.call.job?).isSome = true := by
    decide +kernel
  obtain ⟨job, hjob⟩ := Option.isSome_iff_exists.mp hencode
  obtain ⟨job', hjob'⟩ := Option.isSome_iff_exists.mp hencode'
  obtain ⟨record, hrecord, hjob⟩ := List.exists_of_findSome?_eq_some hjob
  obtain ⟨record', hrecord', hjob'⟩ := List.exists_of_findSome?_eq_some hjob'
  have hcall := Call.eq_encode_of_job? hjob
  have hcall' := Call.eq_encode_of_job? hjob'
  obtain rfl := hjobs record hrecord record' hrecord' job job' hcall hcall'
  exact ⟨hwords, hplans .default, hmusic _ rfl, htrackless,
    ⟨record, hrecord, record', hrecord', job, hcall, hcall'⟩, hok, hresult, hagree⟩

end Montage.Export
