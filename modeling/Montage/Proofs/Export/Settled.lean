import Montage.Proofs.Export.Outcome

/-! Whatever happens in an export, its workspace is gone afterwards, and a destination has either
the whole output or what it had before. -/
namespace Montage

/-- Nothing is left of a directory: neither at its place nor below it, nor under its path. -/
structure Disk.IsGone (d : Disk) (p : Path) (place : Place) : Prop where
  isThere : d.isThere p = false
  find? : ∀ q, place <+: q → d.find? q = none

namespace Site

variable {s : Site} {d d' : Disk}

theorem Cleared.isGone (h : s.Cleared d d') (hopen : s.IsOpen d) : d'.IsGone s.path s.place := by
  have hgone (q : Place) (hq : s.place <+: q) : d'.mark? q = none := by
    rw [h.mark?, if_pos hq]
  have hkeeps : s.Keeps d d' :=
    { mark? := fun q mark hq _ hd => by rw [h.mark?, if_neg hq, hd]
      workingDirectory := h.workingDirectory }
  have hnone := hgone s.place (List.prefix_refl _)
  have hreach := hopen d' hkeeps (by rw [hnone]; exact nofun) true
  rw [Disk.find?_root_of_mark?_none hnone] at hreach
  refine ⟨?_, fun q hq => ?_⟩
  · rw [Disk.isThere, Disk.node?, Disk.look, Disk.reach, hreach]
    rfl
  · rw [Disk.find?_eq, hgone q hq]
    rfl

end Site

namespace Export

variable {encoder : Encoder} {source : Option MusicSource} {settings : Settings} {scratch : Path}
  {request : ExportRequest} {s : Site} {staged output : String} {disk base last ready d : Disk}
  {w w' : World} {parent : Place} {name : String} {id : Nat}

/-! ### The beginning -/

/-- An export in its workspace either fails with nothing but the workspace changed, or has an output
that is to be moved. -/
inductive Ending (encoder : Encoder) (request : ExportRequest) (s : Site) (disk base : Disk) :
    Except ExportError ExportReport → World → Prop
  | failed {e : ExportError} {w : World}
      (hworking : Working s (stagedName request.source) disk base w.disk) :
      Ending encoder request s disk base (.error e) w
  | moving {job : EncodeJob} {outcome : EncodeOutcome} {record : CallRecord}
      {report : ExportReport} {moved : Except ExportError Unit} {w w' : World}
      (hworking : Working s (stagedName request.source) disk base w.disk)
      (hrecord : record ∈ w'.calls) (hcall : record.call = .encode job)
      (houtput : job.output = outputOf request ⟨s.path⟩)
      (hencode : encoder.encode job record.before = (.ok outcome, w.disk))
      (hexit : outcome.succeeded = true)
      (hmove : persist (outputOf request ⟨s.path⟩) request.destination w = (moved, w')) :
      Ending encoder request s disk base (moved.map fun _ => report) w'

theorem Working.after (h : Working s staged disk base last)
    (hstep : s.Step base.files.length staged last d) : Working s staged disk base d :=
  { h with step := h.step.trans hstep }

namespace Working

/-- Outside of the workspace there are new directories at most. -/
theorem mark?_of_grown (h : Working s staged disk base last) (hgrown : last.Grown d) {q : Place}
    (hq : ¬ s.place <+: q) :
    d.mark? q = disk.mark? q ∨ disk.mark? q = none ∧ d.mark? q = some .directory := by
  have hsame := h.step.inside.mark? q hq
  rcases hgrown.mark? q with hlast | ⟨hnone, hmade⟩
  · rw [hlast, hsame]
    exact h.grown.mark? q
  · rw [hsame] at hnone
    rcases h.grown.mark? q with hbase | ⟨-, hmade'⟩
    · exact Or.inr ⟨hbase ▸ hnone, hmade⟩
    · rw [hnone] at hmade'
      cases hmade'

/-- What was there before the workspace is outside of it and stays. -/
theorem mark?_ready {q : Place} {mark : Mark} (h : Working s staged disk base last)
    (hgrown : last.Grown d) (hmark : base.mark? q = some mark) :
    ¬ s.place <+: q ∧ d.mark? q = some mark := by
  have hq : ¬ s.place <+: q := fun hunder => by
    rw [h.mark?_base hunder] at hmark
    cases hmark
  exact ⟨hq, hgrown.mark?_of_some ((h.step.inside.mark? q hq).trans hmark)⟩

/-- Files and links outside of the workspace are those that were there. -/
theorem mark?_of_ready {q : Place} {mark : Mark} (h : Working s staged disk base last)
    (hgrown : last.Grown d) (hq : ¬ s.place <+: q) (hmark : d.mark? q = some mark)
    (hother : mark ≠ .directory) : disk.mark? q = some mark := by
  rcases h.mark?_of_grown hgrown hq with hsame | ⟨-, hmade⟩
  · rw [← hsame, hmark]
  · rw [hmade] at hmark
    exact absurd (Option.some.inj hmark).symm hother

theorem files_of_grown (h : Working s staged disk base last) (hgrown : last.Grown d) {id : Nat}
    (hid : id < base.files.length) : d.files[id]? = base.files[id]? :=
  (hgrown.content id (Nat.lt_of_lt_of_le hid h.step.owned.count_le)).trans
    (h.step.inside.content id hid)

/-- Of a failed export, nothing is left but directories. -/
theorem removed (h : Working s staged disk base last) (hgrown : last.Grown d) :
    base.Grown (d.removeTree s.path).2 ∧ (d.removeTree s.path).2.IsGone s.path s.place := by
  have hopen : s.IsOpen d := h.step.owned.isOpen.keeps (Site.keeps_of_grown hgrown)
  have hcleared := Site.removeTree_cleared hopen (hgrown.mark?_of_some h.step.owned.directory)
  refine ⟨⟨fun q => ?_, fun id hid => ?_, ?_⟩, hcleared.isGone hopen⟩
  · rw [hcleared.mark?]
    split
    · rename_i hq
      exact Or.inl (h.mark?_base hq).symm
    · rename_i hq
      rw [← h.step.inside.mark? q hq]
      exact hgrown.mark? q
  · rw [hcleared.files]
    exact h.files_of_grown hgrown hid
  · rw [hcleared.workingDirectory, hgrown.workingDirectory]
    exact h.step.inside.workingDirectory

/-- The way to the workspace stays open without a link that it does not need. -/
theorem isOpen_of_avoids {hole : Place} {target : Path} (h : Working s staged disk base last)
    (havoids : disk.Avoids s.path hole) (hhole : disk.mark? hole = some (.link target))
    (hkept : ∀ q mark, q ≠ hole → mark.isFile = false → base.mark? q = some mark →
      d.mark? q = some mark)
    (hworking : d.workingDirectory = base.workingDirectory) : s.IsOpen d := by
  obtain ⟨v, hgrown, hnone, parent, name, found, slash, hv, hne⟩ := havoids
  have hbelow {q : Place} {mark : Mark} (hmark : v.mark? q = some mark) : ¬ hole <+: q := by
    intro hunder
    rw [Disk.mark?_eq_none_of_isPrefix hnone hunder] at hmark
    cases hmark
  have hset {q : Place} (hq : ¬ hole <+: q) : (disk.set hole none).mark? q = disk.mark? q :=
    Disk.mark?_set_of_not_isPrefix hq
  intro d' hkeeps hend follow
  have hcarries : Leads.Carries v.mark? base.mark? d'.mark? := by
    intro q mark other _ hother hvq hq
    have hout := hset (hbelow hvq)
    have hqhole : q ≠ hole := fun heq => hbelow hvq (heq ▸ List.prefix_refl _)
    have hsame : other = mark := by
      rcases hgrown.mark? q with hold | ⟨hnew, hmade⟩
      · rw [hold, hout] at hvq
        exact Option.some.inj (hq.symm.trans (h.grown.mark?_of_some hvq))
      · rw [hout] at hnew
        rw [hmade] at hvq
        rcases h.grown.mark? q with hold | ⟨-, hmade'⟩
        · rw [hold, hnew] at hq
          cases hq
        · rw [hmade'] at hq
          exact (Option.some.inj hq).symm.trans (Option.some.inj hvq)
    refine ⟨hsame, hkeeps.mark? q mark (fun hunder => ?_) (hsame ▸ hother)
      (hkept q mark hqhole (hsame ▸ hother) (hsame ▸ hq))⟩
    rw [h.mark?_base hunder] at hq
    cases hq
  have hlink (target : Path) (hfound : v.mark? s.place = some (.link target)) :
      base.mark? s.place = some (.link target) := by
    have hold := (hset (hbelow hfound)).symm.trans (hgrown.mark?_of_ne_directory hfound nofun)
    exact h.grown.mark?_of_some hold
  have hback (target' : Path) (hfound : base.mark? (parent ++ [name]) = some (.link target')) :
      v.mark? (parent ++ [name]) = some (.link target') := by
    have hold := h.grown.mark?_of_ne_directory hfound nofun
    refine hgrown.mark?_of_some ((hset fun hunder => ?_).trans hold)
    -- A link has nothing below it.
    obtain ⟨below, hbelow⟩ := hunder
    have hnil : below ≠ [] := by
      rintro rfl
      exact hne ((List.append_nil hole).symm.trans hbelow).symm
    rw [← hbelow, Disk.mark?_append_eq_none (by rw [hhole]; exact nofun) hnil] at hold
    cases hold
  have hv' := Disk.locateBy_carry hv h.locate hcarries hlink hback
    (fun heq => heq ▸ hend) (h.grown.workingDirectory.trans hgrown.workingDirectory.symm)
    (hkeeps.workingDirectory.trans (hworking.trans
      (h.grown.workingDirectory.trans hgrown.workingDirectory.symm))) follow
  obtain ⟨rfl, rfl, rfl, hlocate⟩ := hv'
  exact hlocate

end Working

/-! ### What is delivered -/

theorem Ready.mark?_moved {destination : Path}
    (h : Ready s disk last destination ready parent name) :
    ((ready.set (s.place ++ [output]) none).set (parent ++ [name]) (some (.file id))).mark?
      (parent ++ [name]) = some (.file id) := by
  refine Disk.mark?_set_self ((Disk.mark?_set_of_not_isPrefix fun hunder => h.outside ?_).trans
    h.directory)
  exact ((List.prefix_append _ _).trans hunder).trans (List.prefix_append _ _)

namespace Delivered

variable {destination : Path} {q : Place}

theorem files {place : Place} (h : Delivered s output ready place id d) :
    d.files = ready.files := by
  cases h <;> rfl

theorem workingDirectory {place : Place} (h : Delivered s output ready place id d) :
    d.workingDirectory = ready.workingDirectory := by
  cases h <;> rfl

/-- Nothing else is changed than the two names of the output. -/
theorem mark?_of_ne (h : Delivered s output ready (parent ++ [name]) id d)
    (hready : Ready s disk last destination ready parent name)
    (hq : ¬ s.place ++ [output] <+: q) (hne : q ≠ parent ++ [name]) :
    d.mark? q = ready.mark? q := by
  cases h with
  | discarded => rfl
  | moved hdirectory _ =>
    by_cases hunder : parent ++ [name] <+: q
    · obtain ⟨below, rfl⟩ := hunder
      have hnil : below ≠ [] := by
        rintro rfl
        exact hne (List.append_nil _)
      rw [Disk.mark?_append_eq_none hdirectory hnil]
      exact Disk.mark?_append_eq_none (by rw [hready.mark?_moved]; exact nofun) hnil
    · exact (Disk.mark?_set_of_not_isPrefix hunder).trans (Disk.mark?_set_of_not_isPrefix hq)

/-- What can be passed after the delivery could be passed before. -/
theorem mark?_of_passed {mark : Mark} (h : Delivered s output ready (parent ++ [name]) id d)
    (hready : Ready s disk last destination ready parent name)
    (hq : ¬ s.place ++ [output] <+: q) (hmark : mark.isFile = false)
    (hd : d.mark? q = some mark) : ready.mark? q = some mark := by
  by_cases hne : q = parent ++ [name]
  · subst hne
    cases h with
    | discarded => exact hd
    | moved =>
      rw [hready.mark?_moved] at hd
      obtain rfl := Option.some.inj hd
      cases hmark
  · rw [← h.mark?_of_ne hready hq hne, hd]

section Removal

variable (h : Delivered s output ready (parent ++ [name]) id d)
  (hworking : Working s staged disk base last)
  (hready : Ready s disk last destination ready parent name)

include h hworking hready

theorem mark?_site : d.mark? s.place = some .directory := by
  have hne : s.place ≠ parent ++ [name] := fun hsame =>
    hready.outside (hsame ▸ List.prefix_refl _)
  rw [h.mark?_of_ne hready (Site.not_append_isPrefix _ _) hne, hready.same _ (List.prefix_refl _)]
  exact hworking.step.owned.directory

theorem workingDirectory_base : d.workingDirectory = base.workingDirectory :=
  h.workingDirectory.trans
    (hready.grown.workingDirectory.trans hworking.step.inside.workingDirectory)

/-- What was there before the workspace is still there, but for the destination. -/
theorem mark?_of_base {mark : Mark} (hne : q ≠ parent ++ [name])
    (hmark : base.mark? q = some mark) : d.mark? q = some mark := by
  obtain ⟨hq, hthere⟩ := hworking.mark?_ready hready.grown hmark
  rw [h.mark?_of_ne hready (Site.not_isPrefix_of_not_isPrefix hq) hne, hthere]

theorem carries : Leads.Carries base.mark? d.mark? d.mark? := by
  intro q mark other _ hother hmark hd
  obtain ⟨hq, hthere⟩ := hworking.mark?_ready hready.grown hmark
  have hpassed := h.mark?_of_passed hready (Site.not_isPrefix_of_not_isPrefix hq) hother hd
  obtain rfl := Option.some.inj (hpassed.symm.trans hthere)
  exact ⟨rfl, hd⟩

/-- The removal of the workspace does no harm to the output, even when the output is in its way. -/
theorem spares : s.Spares d (d.removeTree s.path).2 := by
  refine Site.removeTree_spares hworking.locate (h.mark?_site hworking hready)
    (h.carries hworking hready) (h.workingDirectory_base hworking hready) fun q target hlink => ?_
  by_cases hne : q = parent ++ [name]
  · subst hne
    cases h with
    | discarded => exact Or.inl (hworking.mark?_ready hready.grown hlink).2
    | moved => exact Or.inr ⟨id, hready.mark?_moved⟩
  · exact Or.inl (h.mark?_of_base hworking hready hne hlink)

theorem isOpen (havoids : ∀ target, disk.mark? (parent ++ [name]) = some (.link target) →
    disk.Avoids s.path (parent ++ [name])) : s.IsOpen d := by
  by_cases hlink : ∃ target, disk.mark? (parent ++ [name]) = some (.link target)
  · obtain ⟨target, hlink⟩ := hlink
    exact hworking.isOpen_of_avoids (havoids target hlink) hlink
      (fun q mark hne _ hmark => h.mark?_of_base hworking hready hne hmark)
      (h.workingDirectory_base hworking hready)
  · have howned := hworking.step.owned.grown hready.grown hready.same
    refine howned.isOpen.keeps ⟨fun q mark hq hmark hthere => ?_, h.workingDirectory⟩
    by_cases hne : q = parent ++ [name]
    · subst hne
      cases h with
      | discarded => exact hthere
      | moved hdirectory =>
        match mark with
        | .file _ => cases hmark
        | .directory => exact absurd hthere hdirectory
        | .link target =>
          exact absurd ⟨target, hworking.mark?_of_ready hready.grown hq hthere nofun⟩ hlink
    · rw [h.mark?_of_ne hready (Site.not_isPrefix_of_not_isPrefix hq) hne, hthere]

end Removal

end Delivered

section Work

variable (hclips : request.timeline.clips ≠ [])
  (hcreate : Workspace.create scratch request.id ⟨disk, []⟩ = (.ok ⟨s.path⟩, ⟨d, []⟩))
  (hsite : d.LeadsTo s.path s.place)
  (hlast : Working s (stagedName request.source) disk (disk.createDirectories scratch).2 last)

include hclips hcreate hsite hlast

end Work

end Export

end Montage
