import Montage.Proofs.Disk.Move
import Montage.Proofs.Export.Order
import Montage.Proofs.Export.Workspace
import Montage.Proofs.Filter.Labels

/-! What an export leaves behind: its output at the destination, or nothing at all. -/
namespace Montage.Export

variable {encoder : Encoder} {source : Option MusicSource} {settings : Settings}
  {request : ExportRequest} {frame : Nat × Nat} {track : Option Track} {staged : Path}
  {w w' : World} {s : Site} {count : Nat} {base : Disk}

/-! ### The names in a workspace -/

/-- The name of the source in a workspace. -/
def stagedName (source : Path) : String :=
  "input." ++ extensionOf source

/-- The name of the output in a workspace. -/
def outputName (destination : Path) : String :=
  "output." ++ extensionOf destination

theorem not_slash_mem_extensionOf (p : Path) : '/' ∉ (extensionOf p).toList := by
  rw [extensionOf]
  cases hextension : p.extension? with
  | none => decide
  | some extension =>
    have hslash : '/' ∉ extension.toList := by
      obtain ⟨name, hname, hcut⟩ := Option.bind_eq_some_iff.mp hextension
      obtain ⟨hlast, -⟩ := Option.filter_eq_some_iff.mp hname
      have hstep := Path.isStep_of_mem_steps
        (List.mem_filter.mp (List.mem_of_getLast? hlast)).1
      rw [Path.cutName] at hcut
      split at hcut
      · cases hcut
      · obtain rfl := Option.some.inj hcut
        intro hmem
        rw [String.toList_ofList, List.mem_reverse] at hmem
        exact hstep.2 (List.mem_reverse.mp ((List.takeWhile_sublist _).subset hmem))
    cases hempty : decide (extension ≠ "") with
    | false =>
      rw [Option.filter_some_neg (by simpa using hempty)]
      decide
    | true =>
      rw [Option.filter_some_pos (by simpa using hempty)]
      exact hslash

theorem isPlain_append {front rest : String} (hfront : '/' ∉ front.toList)
    (hrest : '/' ∉ rest.toList) (hlong : 2 < front.toList.length) : IsPlain (front ++ rest) := by
  have hne (short : String) (hshort : short.toList.length ≤ 2) : front ++ rest ≠ short := by
    rintro rfl
    rw [String.toList_append, List.length_append] at hshort
    omega
  refine ⟨⟨hne "" (by decide), ?_⟩, hne "." (by decide), hne ".." (by decide)⟩
  rw [String.toList_append, List.mem_append]
  exact not_or.mpr ⟨hfront, hrest⟩

theorem isPlain_stagedName (source : Path) : IsPlain (stagedName source) :=
  isPlain_append (by decide) (not_slash_mem_extensionOf source) (by decide)

theorem isPlain_imageName (number : Nat) : IsPlain (imageName number) := by
  rw [imageName, String.append_assoc]
  refine isPlain_append (by decide) (fun hslash => ?_) (by decide)
  rw [String.toList_append, List.mem_append] at hslash
  rcases hslash with hnumber | hend
  · exact absurd (Decimal.isNumberChar_of_mem_natural hnumber) (by simp [IsNumberChar])
  · exact absurd hend (by decide)

theorem ne_stagedName {front rest : String} {c : Char} (source : Path)
    (hfront : front.toList.head? = some c) (hc : c ≠ 'i') : front ++ rest ≠ stagedName source := by
  intro h
  have hhead := congrArg (fun name : String => name.toList.head?) h
  simp only [stagedName, String.toList_append] at hhead
  rw [List.head?_append, hfront] at hhead
  exact hc (Option.some.inj hhead)

theorem imageName_ne_stagedName (number : Nat) (source : Path) :
    imageName number ≠ stagedName source := by
  rw [imageName, String.append_assoc]
  exact ne_stagedName source rfl (by decide)

/-! ### The work before the move -/

theorem change_cases {operation : Disk → Except FileError Disk} {result : Except ExportError Unit}
    (h : Run.change operation w = (result, w')) :
    (∃ d, operation w.disk = .ok d ∧ result = .ok () ∧ w'.disk = d) ∨
      ∃ e, operation w.disk = .error e ∧ result = .error (.file e) ∧ w' = w := by
  rw [Run.change] at h
  split at h
  · rename_i d hdone
    obtain ⟨rfl, rfl⟩ := Prod.mk.inj h
    exact Or.inl ⟨d, hdone, rfl, rfl⟩
  · rename_i e hfailed
    obtain ⟨rfl, rfl⟩ := Prod.mk.inj h
    exact Or.inr ⟨e, hfailed, rfl, rfl⟩

theorem changeOr_cases {first second : Disk → Except FileError Disk}
    {result : Except ExportError Unit} (h : Run.changeOr first second w = (result, w')) :
    first w.disk = .ok w'.disk ∨ second w.disk = .ok w'.disk ∨ w' = w := by
  rcases change_cases h with ⟨d, hdone, -, rfl⟩ | ⟨-, -, -, rfl⟩
  · split at hdone
    · rename_i hfirst
      obtain rfl := Except.ok.inj hdone
      exact Or.inl hfirst
    · exact Or.inr (Or.inl hdone)
  · exact Or.inr (Or.inr rfl)

/-- The source is staged in the workspace and changes nothing else. -/
theorem stage_step {path : Path} {result : Except ExportError Path}
    (howned : s.Owned count (stagedName path) w.disk) (hpath : s.path.text ≠ "")
    (hnone : w.disk.mark? (s.place ++ [stagedName path]) = none)
    (h : stage ⟨s.path⟩ path w = (result, w')) :
    s.Step count (stagedName path) w.disk w'.disk := by
  have hplain := isPlain_stagedName path
  rw [stage] at h
  have hend {result : Except ExportError Unit} {w₁ : World}
      (hchange : Run.changeOr (·.link path ((⟨s.path⟩ : Workspace).file (stagedName path)))
        (·.copy path ((⟨s.path⟩ : Workspace).file (stagedName path))) w = (result, w₁)) :
      s.Step count (stagedName path) w.disk w₁.disk := by
    rcases changeOr_cases hchange with hlink | hcopy | rfl
    · exact howned.link hpath hplain hlink
    · exact howned.copy hpath hplain hnone hcopy
    · exact .refl howned
  obtain ⟨e, hchange, -⟩ | ⟨_, w₁, hchange, hlast⟩ := Run.of_bind h
  · exact hend hchange
  · obtain ⟨-, rfl⟩ := Prod.mk.inj hlast
    exact hend hchange

theorem Opened.step (hconfined : encoder.Confined) (hpath : s.path.text ≠ "")
    (howned : s.Owned count (stagedName request.source) w.disk)
    (hnone : w.disk.mark? (s.place ++ [stagedName request.source]) = none)
    (h : Opened encoder source settings request ⟨s.path⟩ w staged frame track w') :
    s.Step count (stagedName request.source) w.disk w'.disk := by
  obtain ⟨hstage, hframe, htrack⟩ := h
  rename_i w₁ w₂
  have hstep := stage_step howned hpath hnone hstage
  rw [frameOf_eq] at hframe
  obtain ⟨-, rfl⟩ := Prod.mk.inj hframe
  obtain ⟨found, w₃, hfound, -, hworld⟩ := trackOf_ok encoder source request.timeline _
  rw [hfound] at htrack
  obtain ⟨-, rfl⟩ := Prod.mk.inj htrack
  rcases hworld with rfl | ⟨path, rfl⟩
  · change s.Step count _ w.disk (encoder.frameSize staged w₁.disk).2
    rw [hconfined.frameSize]
    exact hstep
  · change s.Step count _ w.disk
      (encoder.duration path (encoder.frameSize staged w₁.disk).2).2
    rw [hconfined.duration, hconfined.frameSize]
    exact hstep

/-- Images are files of the workspace, whether or not all of them can be made. -/
theorem extraInputs_step {number : Nat} {inputs : List (PlanInput Binary64)}
    {result : Except ExportError (List ExtraInput)} {path : Path} (hconfined : encoder.Confined)
    (hpath : s.path.text ≠ "") (howned : s.Owned count (stagedName path) w.disk)
    (h : extraInputs encoder ⟨s.path⟩ frame track number inputs w = (result, w')) :
    s.Step count (stagedName path) w.disk w'.disk := by
  induction inputs generalizing number w w' result with
  | nil =>
    obtain ⟨-, rfl⟩ := Prod.mk.inj h
    exact .refl howned
  | cons input rest ih =>
    cases input with
    | source => exact ih howned h
    | music keywords volume =>
      obtain ⟨e, hrest, -⟩ | ⟨more, w₁, hrest, hlast⟩ := Run.of_bind h
      · exact ih howned hrest
      · obtain ⟨-, rfl⟩ := Prod.mk.inj hlast
        exact ih howned hrest
    | textImage overlay words position seconds =>
      let job : TextImageJob := ⟨overlay, words, position, frame.1, frame.2⟩
      have htouched : s.Step count (stagedName path) w.disk (encoder.textImage job
          ((⟨s.path⟩ : Workspace).file (imageName number)) w.disk).2 :=
        howned.touched hpath (isPlain_imageName number) (imageName_ne_stagedName number path)
          (hconfined.textImage job _ w.disk)
      obtain ⟨e, hdraw, -⟩ | ⟨_, w₁, hdraw, hmore⟩ := Run.of_bind h
      · obtain ⟨-, rfl⟩ := Prod.mk.inj hdraw
        exact htouched
      · obtain ⟨-, rfl⟩ := Prod.mk.inj hdraw
        obtain ⟨e, hrest, -⟩ | ⟨more, w₂, hrest, hlast⟩ := Run.of_bind hmore
        · exact htouched.trans (ih htouched.owned hrest)
        · obtain ⟨-, rfl⟩ := Prod.mk.inj hlast
          exact htouched.trans (ih htouched.owned hrest)

theorem Prepared.step {plan : RenderPlan Binary64} {extra : List ExtraInput}
    (hconfined : encoder.Confined) (hpath : s.path.text ≠ "")
    (howned : s.Owned count (stagedName request.source) w.disk)
    (hnone : w.disk.mark? (s.place ++ [stagedName request.source]) = none)
    (h : Prepared encoder source settings request ⟨s.path⟩ w staged frame track plan extra w') :
    s.Step count (stagedName request.source) w.disk w'.disk := by
  obtain ⟨hopened, -, hdraw⟩ := h
  have hstep := hopened.step hconfined hpath howned hnone
  exact hstep.trans (extraInputs_step hconfined hpath hstep.owned hdraw)

/-- An export at work: its workspace was made on the disk `base`, on which the scratch directory is
there, and since then it has changed nothing but its workspace. -/
structure Working (s : Site) (staged : String) (disk base last : Disk) : Prop where
  grown : disk.Grown base
  locate : base.locate s.path = .ok (.name s.parent s.name none s.slash)
  path_ne_empty : s.path.text ≠ ""
  step : s.Step base.files.length staged base last

namespace Working

variable {staged : String} {disk last ready v : Disk} {destination : Path} {parent : Place}
  {name : String}

theorem mark?_base (h : Working s staged disk base last) {q : Place} (hq : s.place <+: q) :
    base.mark? q = none :=
  Disk.mark?_eq_none_of_isPrefix (Disk.mark?_of_locate_none h.locate) hq

theorem mark?_disk (h : Working s staged disk base last) {q : Place} (hq : s.place <+: q) :
    disk.mark? q = none := by
  rcases h.grown.mark? q with hsame | ⟨hnone, -⟩
  · rw [← hsame, h.mark?_base hq]
  · exact hnone

/-- A disk that has grown without a workspace fits the disk of the export. -/
theorem fits (h : Working s staged disk base last) (hv : disk.Grown v)
    (hnone : v.mark? s.place = none) : v.Fits last where
  agree place mark other _ _ hmark hother := by
    have hplace : ¬ s.place <+: place := fun hunder => by
      rw [Disk.mark?_eq_none_of_isPrefix hnone hunder] at hmark
      cases hmark
    rw [h.step.inside.mark? place hplace] at hother ⊢
    obtain rfl := hv.agree h.grown hmark hother
    exact ⟨rfl, hother⟩
  link place target hlink := by
    have hplace : ¬ s.place <+: place := fun hunder => by
      rw [Disk.mark?_eq_none_of_isPrefix hnone hunder] at hlink
      cases hlink
    rw [h.step.inside.mark? place hplace]
    exact h.grown.mark?_of_some (hv.mark?_of_ne_directory hlink nofun)
  workingDirectory :=
    (h.step.inside.workingDirectory.trans h.grown.workingDirectory).trans hv.workingDirectory.symm

/-- The directories on the way to a destination fit the disk on which it is reached without a
workspace. -/
theorem fits_ready {above : Path} {found : Option Entry} {slash : Bool}
    (h : Working s staged disk base last) (hv : disk.Grown v) (hnone : v.mark? s.place = none)
    (hlocate : v.locate destination = .ok (.name parent name found slash))
    (habove : destination.parent? = some above) :
    v.Fits (last.createDirectories above).2 ∧
      ∀ q, (last.createDirectories above).2.mark? q = last.mark? q ∨
        v.mark? q = some .directory := by
  obtain ⟨here, init, name, stop, hsteps, hstarts, hleads, hparent⟩ := Disk.leads_parent hlocate
  rw [hparent] at habove
  obtain rfl := Option.some.inj habove
  have hstep : ∀ step ∈ init.filter (· ≠ "."), IsStep step ∧ step ≠ "." := by
    intro step hstep
    obtain ⟨hmem, hdot⟩ := List.mem_filter.mp hstep
    exact ⟨Path.isStep_of_mem_steps (hsteps ▸ List.mem_append_left _ hmem), by simpa using hdot⟩
  have hstarts' : v.Starts (.ofNames destination.isAbsolute (init.filter (· ≠ "."))) here := by
    rw [Disk.Starts, Path.isAbsolute_ofNames fun step hmem => (hstep step hmem).1]
    exact hstarts
  exact (h.fits hv hnone).createDirectories hstep hstarts' hleads

theorem grown_of_avoids (h : Working s staged disk base last)
    (hv : (disk.set s.place none).Grown v) : disk.Grown v :=
  (Disk.grown_set_none s.place_ne_nil (h.mark?_disk (List.prefix_refl _))).trans hv

/-- Nothing is made in the workspace on the way to a destination outside of it. -/
theorem same_ready {above : Path} (h : Working s staged disk base last)
    (houtside : disk.Avoids destination s.place) (habove : destination.parent? = some above)
    {q : Place} (hq : s.place <+: q) :
    (last.createDirectories above).2.mark? q = last.mark? q := by
  obtain ⟨v, hgrown, hnone, _, _, _, _, hv, -⟩ := houtside
  rcases (h.fits_ready (h.grown_of_avoids hgrown) hnone hv habove).2 q with hsame | hthere
  · exact hsame
  · rw [Disk.mark?_eq_none_of_isPrefix hnone hq] at hthere
    cases hthere

end Working

/-- The directories of a destination are there, and the destination is outside of the workspace. -/
structure Ready (s : Site) (disk last : Disk) (destination : Path) (ready : Disk) (parent : Place)
    (name : String) : Prop where
  grown : last.Grown ready
  directory : ready.mark? parent = some .directory
  same : ∀ q, s.place <+: q → ready.mark? q = last.mark? q
  leadsTo : disk.LeadsTo destination (parent ++ [name])
  outside : ¬ s.place <+: parent ++ [name]
  /-- The way to the destination is still there where nothing of it is lost. -/
  reaches : ∀ d : Disk, d.workingDirectory = ready.workingDirectory →
    (∀ q mark, ¬ s.place <+: q → mark.isFile = false → ready.mark? q = some mark →
      d.mark? q = some mark) →
    (∀ target, d.mark? (parent ++ [name]) ≠ some (.link target)) → ∀ follow,
      d.locateBy follow destination =
        .ok (.name parent name (d.root.find? (parent ++ [name])) false)

/-- A path that avoids the workspace needs no directory there, and leads where it has led. -/
theorem Working.ready {staged : String} {disk last ready : Disk} {destination above : Path}
    {parent : Place} {name : String} {found : Option Entry}
    (h : Working s staged disk base last) (houtside : disk.Avoids destination s.place)
    (habove : destination.parent? = some above) (hready : ready = (last.createDirectories above).2)
    (hfound : ready.locate destination = .ok (.name parent name found false)) :
    Ready s disk last destination ready parent name := by
  have hsame (q : Place) (hq : s.place <+: q) : ready.mark? q = last.mark? q :=
    hready ▸ h.same_ready houtside habove hq
  obtain ⟨v, hgrown, hnone, _, _, _, _, hv, hne⟩ := houtside
  have hdisk := h.grown_of_avoids hgrown
  have hfits := (h.fits_ready hdisk hnone hv habove).1
  rw [← hready] at hfits
  have hplain {q : Place} {mark : Mark} (hmark : v.mark? q = some mark) : ¬ s.place <+: q := by
    intro hunder
    rw [Disk.mark?_eq_none_of_isPrefix hnone hunder] at hmark
    cases hmark
  have hv' := hv
  obtain ⟨start, hstart, hreach, -⟩ := Disk.reaches_of_locateBy hv
  obtain ⟨start', hstart', hreach', -⟩ := Disk.reaches_of_locateBy hfound
  have hslash : destination.endsInSlash = false := by
    cases hends : destination.endsInSlash with
    | false => rfl
    | true => cases hreach'.slash_of_slash hends
  rw [hslash] at hreach hreach'
  obtain ⟨-, front, hfront, hway⟩ := hreach.of_no_slash
  obtain ⟨-, front', hfront', hway'⟩ := hreach'.of_no_slash
  obtain ⟨rfl, hlast⟩ := List.append_inj' (hfront.symm.trans hfront') rfl
  cases hlast
  have hcarries (d : Disk) (hkeeps : ∀ q mark, ¬ s.place <+: q → mark.isFile = false →
      ready.mark? q = some mark → d.mark? q = some mark) :
      Leads.Carries v.mark? ready.mark? d.mark? := by
    intro q mark other hmark hother hvmark hdmark
    obtain ⟨rfl, hthere⟩ := hfits.agree q mark other hmark hother hvmark hdmark
    exact ⟨rfl, hkeeps q other (hplain hvmark) hother hthere⟩
  obtain ⟨rfl, -⟩ := hstart.carry hstart' hfits.agree hfits.workingDirectory hfits.workingDirectory
  obtain ⟨rfl, -⟩ := hway.carry hway' hfits.agree
  refine ⟨hready ▸ Disk.createDirectories_grown last _, Disk.mark?_parent hfound, hsame,
    ⟨v, hdisk, _, _, _, _, hv', rfl⟩,
    fun hunder => ?_, fun d hworking hkeeps hend follow => ?_⟩
  · rcases List.prefix_concat_iff.mp hunder with hsame | hinside
    · exact hne hsame.symm
    · exact hplain (Disk.mark?_parent hv') hinside
  · obtain ⟨-, hthere⟩ := hstart.carry hstart' (hcarries d hkeeps) hfits.workingDirectory
      (hworking.trans hfits.workingDirectory)
    obtain ⟨-, hleads'⟩ := hway.carry hway' (hcarries d hkeeps)
    refine Disk.locateBy_of_reaches (Disk.isLegal_of_locateBy hv') hthere ?_
    rw [hslash, hfront]
    exact .last hleads' hreach.isName fun target htarget => absurd htarget (hend target)

/-! ### The move -/

/-- The output takes its place at the destination, unless a device is there. -/
inductive Delivered (s : Site) (output : String) (ready : Disk) (place : Place) (id : Nat) :
    Disk → Prop
  | moved (hdirectory : ready.mark? place ≠ some .directory)
      (hdevice : ∀ other, ready.mark? place = some (.file other) →
        (ready.content other).isDevice = false) :
      Delivered s output ready place id
        ((ready.set (s.place ++ [output]) none).set place (some (.file id)))
  | discarded {device : Nat} (hfound : ready.mark? place = some (.file device))
      (hdevice : (ready.content device).isDevice = true) :
      Delivered s output ready place id ready

/-- What a workspace has under the name of its output is a file of its own. -/
theorem output_of_look {ready : Disk} {name staged : String} {entry : Entry}
    (howned : s.Owned count staged ready) (hname : name ≠ staged)
    (hfound : ready.root.find? (s.place ++ [name]) = some entry) :
    ∃ id, entry = .file id ∧ count ≤ id ∧ id < ready.files.length ∧
      (ready.content id).isDevice = false := by
  obtain ⟨id, hmark, hnew, hid, hdevice⟩ := howned.entry name hname _
    (Disk.mark?_of_find?_root hfound)
  exact ⟨id, Entry.mark_eq_file hmark, hnew, hid, hdevice⟩

theorem deliver {staged output : String} {disk last ready d : Disk} {destination above : Path}
    (h : Working s staged disk base last) (hsound : base.Sound)
    (houtside : disk.Avoids destination s.place) (habove : destination.parent? = some above)
    (hready : ready = (last.createDirectories above).2) (hname : IsPlain output)
    (hother : output ≠ staged)
    (hdone : ready.rename ((⟨s.path⟩ : Workspace).file output) destination = .ok d ∨
      ∃ e, ready.rename ((⟨s.path⟩ : Workspace).file output) destination = .error e ∧
        ready.copy ((⟨s.path⟩ : Workspace).file output) destination = .ok d) :
    ∃ parent name id, Ready s disk last destination ready parent name ∧
      ready.mark? (s.place ++ [output]) = some (.file id) ∧ base.files.length ≤ id ∧
      (∃ location, ready.locate ((⟨s.path⟩ : Workspace).file output) = .ok location) ∧
      Delivered s output ready (parent ++ [name]) id d := by
  have hgrown : last.Grown ready := hready ▸ Disk.createDirectories_grown last above
  have howned : s.Owned base.files.length staged ready :=
    h.step.owned.grown hgrown fun q hq => hready ▸ h.same_ready houtside habove hq
  have hnot : ∀ target, ready.mark? (s.place ++ [output]) ≠ some (.link target) := by
    intro target htarget
    obtain ⟨id, hfile, -⟩ := howned.entry output hother _ htarget
    cases hfile
  have hat {follow : Bool} {location : Location}
      (hlocate : ready.locateBy follow ((⟨s.path⟩ : Workspace).file output) = .ok location) :
      location = .name s.place output (ready.root.find? (s.place ++ [output])) false :=
    howned.isOpen.locateBy_file howned.directory h.path_ne_empty hname (fun _ => hnot) hlocate
  rcases hdone with hrename | ⟨e, hrename, hcopy⟩
  · obtain ⟨location, hlocate, hthere⟩ := Disk.exists_of_rename hrename
    obtain rfl := hat hlocate
    cases hfound : ready.root.find? (s.place ++ [output]) with
    | none =>
      rw [hfound] at hthere
      exact absurd rfl (hthere _ _ _)
    | some entry =>
      obtain ⟨id, rfl, hnew, -, -⟩ := output_of_look howned hother hfound
      rw [hfound] at hlocate
      obtain ⟨parent, name, found, hq, hend⟩ := Disk.rename_file_eq_ok hlocate hrename
      have hr := h.ready houtside habove hready hq
      obtain ⟨-, -, -, hfoundq⟩ := Disk.reaches_of_locateBy hq
      refine ⟨parent, name, id, hr, Disk.mark?_of_find?_root hfound, hnew, ⟨_, hlocate⟩, ?_⟩
      rcases hend with ⟨-, hplace | rfl⟩ | ⟨hdirectory, hdevice, rfl⟩
      · exact absurd (hplace ▸ List.prefix_append s.place [output]) hr.outside
      · -- A file of the workspace's own has no name outside of it.
        have hold := hgrown.mark?_of_ne_directory (Disk.mark?_of_find?_root hfoundq.symm) nofun
        rw [h.step.inside.mark? _ hr.outside] at hold
        exact absurd (hsound _ id hold) (Nat.not_lt.mpr hnew)
      · refine .moved (fun hmark => ?_) fun other hmark => ?_
        · obtain ⟨entries, hentries⟩ := Disk.find?_root_of_mark?_directory hmark
          exact hdirectory entries (hfoundq.trans hentries)
        · rw [hfoundq, Disk.find?_root_of_mark?_file hmark] at hdevice
          exact hdevice
  · obtain ⟨id, hlook⟩ := Disk.exists_of_copy hcopy
    obtain ⟨location, hreach, hat'⟩ := Disk.look_eq_ok hlook
    obtain rfl := hat hreach
    obtain ⟨other, hlocate, -⟩ := Disk.locate_of_reach hreach
    obtain rfl := hat hlocate
    cases hfound : ready.root.find? (s.place ++ [output]) with
    | none =>
      rw [hfound] at hat'
      cases hat'
    | some entry =>
      obtain ⟨id', rfl, hnew, -, -⟩ := output_of_look howned hother hfound
      have hsame : ready.look ((⟨s.path⟩ : Workspace).file output) =
          Disk.lookAt (.name s.place output (some (.file id')) false) := by
        rw [Disk.look, hreach, hfound]
        rfl
      rw [hfound] at hlocate
      obtain ⟨rfl, parent, name, device, hq, hdevice⟩ :=
        Disk.copy_of_rename_error hlocate hsame hrename hcopy
      have hr := h.ready houtside habove hready hq
      obtain ⟨-, -, -, hfoundq⟩ := Disk.reaches_of_locateBy hq
      exact ⟨parent, name, id', hr, Disk.mark?_of_find?_root hfound, hnew, ⟨_, hlocate⟩,
        .discarded (Disk.mark?_of_find?_root hfoundq.symm) hdevice⟩

end Montage.Export
