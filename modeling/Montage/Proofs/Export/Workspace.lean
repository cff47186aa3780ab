import Montage.Encoder.Scripted
import Montage.Export.Run
import Montage.Proofs.Disk.Create

/-! A workspace is reached by what is outside of it, its files are its own, and it can be removed
whatever has been put into it. -/
namespace Montage

/-- A name that can be put after a directory. -/
structure IsPlain (name : String) : Prop where
  isStep : IsStep name
  dot : name ≠ "."
  dots : name ≠ ".."

/-! ### Encoders that keep to their outputs -/

/-- One file is written and removed, as often as it may be. -/
inductive Disk.Touched (p : Path) (d : Disk) : Disk → Prop
  | untouched : Touched p d d
  | written {d' d'' : Disk} {bytes : Text.Bytes} (h : Touched p d d')
      (hwrite : d'.write p bytes = .ok d'') : Touched p d d''
  | removed {d' d'' : Disk} (h : Touched p d d') (hremove : d'.removeFile p = .ok d'') :
      Touched p d d''

namespace Encoder

/-- Nothing but the output paths that it is given is touched by an encoder, whether or not it
succeeds. -/
structure Confined (encoder : Encoder) : Prop where
  frameSize : ∀ path d, (encoder.frameSize path d).2 = d
  duration : ∀ path d, (encoder.duration path d).2 = d
  textImage : ∀ job output (d : Disk), d.Touched output (encoder.textImage job output d).2
  encode : ∀ job (d : Disk), d.Touched job.output (encoder.encode job d).2

end Encoder

/-- Where a directory of that path stands. -/
structure Site where
  path : Path
  parent : Place
  name : String
  slash : Bool

namespace Site

variable {s : Site} {d d' d'' : Disk} {count : Nat} {staged name : String}

def place (s : Site) : Place :=
  s.parent ++ [s.name]

theorem place_ne_nil (s : Site) : s.place ≠ [] := by
  simp [place]

/-! ### The way to a site -/

/-- Directories and links outside of a site are still there. -/
structure Keeps (s : Site) (d d' : Disk) : Prop where
  mark? : ∀ place mark, ¬ s.place <+: place → mark.isFile = false →
    d.mark? place = some mark → d'.mark? place = some mark
  workingDirectory : d'.workingDirectory = d.workingDirectory

theorem Keeps.refl (s : Site) (d : Disk) : s.Keeps d d where
  mark? _ _ _ _ h := h
  workingDirectory := rfl

theorem Keeps.trans (h : s.Keeps d d') (h' : s.Keeps d' d'') : s.Keeps d d'' where
  mark? q mark hq hmark hd := h'.mark? q mark hq hmark (h.mark? q mark hq hmark hd)
  workingDirectory := h'.workingDirectory.trans h.workingDirectory

theorem keeps_of_grown (h : Disk.Grown d d') : s.Keeps d d' where
  mark? _ _ _ _ hd := h.mark?_of_some hd
  workingDirectory := h.workingDirectory

/-- The path leads to the site, and only what is outside of the site matters for that. -/
def IsOpen (s : Site) (d : Disk) : Prop :=
  ∀ d', s.Keeps d d' → (∀ target, d'.mark? s.place ≠ some (.link target)) → ∀ follow,
    d'.locateBy follow s.path = .ok (.name s.parent s.name (d'.root.find? s.place) s.slash)

theorem IsOpen.keeps (h : s.IsOpen d) (hkeeps : s.Keeps d d') : s.IsOpen d' :=
  fun d'' hkeeps' => h d'' (hkeeps.trans hkeeps')

theorem IsOpen.locateBy (h : s.IsOpen d) (hend : ∀ target, d.mark? s.place ≠ some (.link target))
    (follow : Bool) :
    d.locateBy follow s.path = .ok (.name s.parent s.name (d.root.find? s.place) s.slash) :=
  h d (Keeps.refl s d) hend follow

/-- The way to a site stays open as long as its path leads to some name, if a link there has not
been lost. -/
theorem isOpen_of_name {v : Disk} {parent : Place} {found : Option Entry} {slash : Bool}
    (hv : v.locate s.path = .ok (.name s.parent s.name none s.slash))
    (hd : d.locate s.path = .ok (.name parent name found slash))
    (hcarries : Leads.Carries v.mark? d.mark? d.mark?)
    (hlink : ∀ target, v.mark? (parent ++ [name]) = some (.link target) →
      d.mark? (parent ++ [name]) = some (.link target))
    (hsite : ∀ target, d.mark? s.place ≠ some (.link target))
    (hworking : d.workingDirectory = v.workingDirectory) : s.IsOpen d := by
  intro d' hkeeps hend follow
  have hnone : v.mark? s.place = none := Disk.mark?_of_locate_none hv
  have hcarries' : Leads.Carries v.mark? d.mark? d'.mark? := by
    intro place mark other hmark hother hplace hd
    obtain ⟨rfl, hthere⟩ := hcarries place mark other hmark hother hplace hd
    refine ⟨rfl, hkeeps.mark? place other (fun hunder => ?_) hother hthere⟩
    rw [Disk.mark?_eq_none_of_isPrefix hnone hunder] at hplace
    cases hplace
  exact (Disk.locateBy_carry hv hd hcarries' hlink
    (fun target htarget => absurd htarget (hsite target)) (fun _ => hend) hworking
    (hkeeps.workingDirectory.trans hworking) follow).2.2.2

/-! ### Files of a workspace -/

theorem steps_file (hpath : s.path.text ≠ "") (hname : IsPlain name) :
    ((⟨s.path⟩ : Workspace).file name).steps = s.path.steps ++ [name] := by
  rw [Workspace.file, Path.steps_join hpath (Path.isAbsolute_of_isStep hname.isStep),
    Path.steps_of_isStep hname.isStep]

theorem isAbsolute_file (hpath : s.path.text ≠ "") (hname : IsPlain name) :
    ((⟨s.path⟩ : Workspace).file name).isAbsolute = s.path.isAbsolute :=
  Path.isAbsolute_join hpath (Path.isAbsolute_of_isStep hname.isStep)

theorem endsInSlash_file (hpath : s.path.text ≠ "") (hname : IsPlain name) :
    ((⟨s.path⟩ : Workspace).file name).endsInSlash = false :=
  (Path.endsInSlash_join hpath (Path.isAbsolute_of_isStep hname.isStep) hname.isStep.1).trans
    (Path.endsInSlash_of_isStep hname.isStep)

theorem locateBy_file_of_leads {follow : Bool} {here : Place}
    (hlegal : ((⟨s.path⟩ : Workspace).file name).IsLegal) (hstarts : d.Starts s.path here)
    (hleads : Leads d.mark? Spot.linkLimit here s.path.steps s.place) (hpath : s.path.text ≠ "")
    (hname : IsPlain name) (hisName : IsName name)
    (hend : follow = true → ∀ target, d.mark? (s.place ++ [name]) ≠ some (.link target)) :
    d.locateBy follow ((⟨s.path⟩ : Workspace).file name) =
      .ok (.name s.place name (d.root.find? (s.place ++ [name])) false) := by
  have hthere : d.Starts ((⟨s.path⟩ : Workspace).file name) here := by
    rw [Disk.Starts, isAbsolute_file hpath hname]
    exact hstarts
  have hreaches : Reaches d.mark? follow Spot.linkLimit here
      ((⟨s.path⟩ : Workspace).file name).steps ((⟨s.path⟩ : Workspace).file name).endsInSlash
      s.place name false := by
    rw [steps_file hpath hname, endsInSlash_file hpath hname]
    refine .last hleads hisName fun target htarget => ?_
    cases follow with
    | false => rfl
    | true => exact absurd htarget (hend rfl target)
  exact Disk.locateBy_of_reaches hlegal hthere hreaches

theorem IsOpen.leads_of_file {follow : Bool} {location : Location} (h : s.IsOpen d)
    (hdirectory : d.mark? s.place = some .directory) (hpath : s.path.text ≠ "")
    (hname : IsPlain name)
    (hlocate : d.locateBy follow ((⟨s.path⟩ : Workspace).file name) = .ok location) :
    IsName name ∧ ∃ here, d.Starts s.path here ∧
      Leads d.mark? Spot.linkLimit here s.path.steps s.place := by
  obtain ⟨start, hwithin, hstarts, hall⟩ := Disk.exists_start hlocate
  rw [hall, steps_file hpath hname] at hlocate
  obtain ⟨stop, hleads⟩ := Disk.leads_of_locateFrom hwithin hlocate
  have hsite := h.locateBy (by rw [hdirectory]; exact nofun) false
  obtain ⟨here, hhere, hreaches, -⟩ := Disk.reaches_of_locateBy hsite
  have hfits := Disk.Fits.refl d
  obtain rfl := hfits.starts hhere hstarts (isAbsolute_file hpath hname)
  obtain ⟨rfl, hleads⟩ := hreaches.leads hleads hfits.agree hdirectory hdirectory
  exact ⟨Disk.isName_of_locateFrom hlocate (not_or.mpr ⟨hname.dot, hname.dots⟩), start.place, hhere,
    hleads⟩

/-- A file of a workspace is found in the directory of the workspace. -/
theorem IsOpen.locateBy_file {follow : Bool} {location : Location} (h : s.IsOpen d)
    (hdirectory : d.mark? s.place = some .directory) (hpath : s.path.text ≠ "")
    (hname : IsPlain name)
    (hend : follow = true → ∀ target, d.mark? (s.place ++ [name]) ≠ some (.link target))
    (hlocate : d.locateBy follow ((⟨s.path⟩ : Workspace).file name) = .ok location) :
    location = .name s.place name (d.root.find? (s.place ++ [name])) false := by
  obtain ⟨hisName, here, hhere, hleads⟩ := h.leads_of_file hdirectory hpath hname hlocate
  have hfound := locateBy_file_of_leads (Disk.isLegal_of_locateBy hlocate) hhere hleads hpath hname
    hisName hend
  rw [hfound] at hlocate
  exact (Except.ok.inj hlocate).symm

/-! ### What is done in a workspace -/

/-- The directory of a workspace is there, and all in it but the staged source are files of the
workspace's own, newer than the workspace itself. -/
structure Owned (s : Site) (count : Nat) (staged : String) (d : Disk) : Prop where
  isOpen : s.IsOpen d
  directory : d.mark? s.place = some .directory
  count_le : count ≤ d.files.length
  entry : ∀ name, name ≠ staged → ∀ mark, d.mark? (s.place ++ [name]) = some mark →
    ∃ id, mark = .file id ∧ count ≤ id ∧ id < d.files.length ∧ (d.content id).isDevice = false

/-- Nothing has changed outside of a workspace. -/
structure Inside (s : Site) (count : Nat) (d d' : Disk) : Prop where
  mark? : ∀ q, ¬ s.place <+: q → d'.mark? q = d.mark? q
  content : ∀ id < count, d'.files[id]? = d.files[id]?
  workingDirectory : d'.workingDirectory = d.workingDirectory

theorem Inside.refl (s : Site) (count : Nat) (d : Disk) : s.Inside count d d where
  mark? _ _ := rfl
  content _ _ := rfl
  workingDirectory := rfl

theorem Inside.trans (h : s.Inside count d d') (h' : s.Inside count d' d'') :
    s.Inside count d d'' where
  mark? q hq := (h'.mark? q hq).trans (h.mark? q hq)
  content id hid := (h'.content id hid).trans (h.content id hid)
  workingDirectory := h'.workingDirectory.trans h.workingDirectory

theorem Inside.keeps (h : s.Inside count d d') : s.Keeps d d' where
  mark? q _ hq _ hd := (h.mark? q hq).trans hd
  workingDirectory := h.workingDirectory

theorem not_append_isPrefix (place : Place) (name : String) : ¬ place ++ [name] <+: place := by
  intro h
  have hlength := h.length_le
  rw [List.length_append, List.length_singleton] at hlength
  omega

theorem not_isPrefix_of_not_isPrefix {q below : Place} (h : ¬ s.place <+: q) :
    ¬ s.place ++ below <+: q :=
  fun hbelow => h ((List.prefix_append _ _).trans hbelow)

/-- A step taken in a workspace. -/
structure Step (s : Site) (count : Nat) (staged : String) (d d' : Disk) : Prop where
  owned : s.Owned count staged d'
  inside : s.Inside count d d'

namespace Step

theorem refl (h : s.Owned count staged d) : s.Step count staged d d :=
  ⟨h, .refl s count d⟩

theorem trans (h : s.Step count staged d d') (h' : s.Step count staged d' d'') :
    s.Step count staged d d'' :=
  ⟨h'.owned, h.inside.trans h'.inside⟩

end Step

namespace Owned

theorem set {entry : Option Entry} (h : s.Owned count staged d)
    (hentry : ∀ found, entry = some found → name ≠ staged → ∃ id, found = .file id ∧ count ≤ id ∧
      id < d.files.length ∧ (d.content id).isDevice = false) :
    s.Step count staged d (d.set (s.place ++ [name]) entry) := by
  have hinside : s.Inside count d (d.set (s.place ++ [name]) entry) :=
    { mark? := fun q hq => Disk.mark?_set_of_not_isPrefix (not_isPrefix_of_not_isPrefix hq)
      content := fun _ _ => rfl
      workingDirectory := rfl }
  refine ⟨⟨h.isOpen.keeps hinside.keeps, ?_, h.count_le, fun other hother mark hmark => ?_⟩,
    hinside⟩
  · rw [Disk.mark?_set_of_not_isPrefix (not_append_isPrefix s.place name)]
    exact h.directory
  · by_cases hname : other = name
    · subst hname
      rw [Disk.mark?_set_self h.directory] at hmark
      obtain ⟨found, hfound, rfl⟩ := Option.map_eq_some_iff.mp hmark
      obtain ⟨id, rfl, hid⟩ := hentry found hfound hother
      exact ⟨id, rfl, hid⟩
    · have hunder : ¬ s.place ++ [name] <+: s.place ++ [other] := fun hunder =>
        hname (by simpa using (hunder.eq_of_length (by simp)).symm)
      rw [Disk.mark?_set_of_not_isPrefix hunder] at hmark
      exact h.entry other hother mark hmark

theorem extend (h : s.Owned count staged d) (content : Content) :
    s.Step count staged d { d with files := d.files ++ [content] } := by
  have hinside : s.Inside count d { d with files := d.files ++ [content] } :=
    { mark? := fun _ _ => rfl
      content := fun id hid =>
        List.getElem?_append_left (Nat.lt_of_lt_of_le hid h.count_le)
      workingDirectory := rfl }
  refine ⟨⟨h.isOpen.keeps hinside.keeps, h.directory, ?_, fun other hother mark hmark => ?_⟩,
    hinside⟩
  · exact Nat.le_trans h.count_le (by simp)
  · obtain ⟨id, rfl, hnew, hid, hkind⟩ := h.entry other hother mark hmark
    refine ⟨id, rfl, hnew, by simp; omega, ?_⟩
    rw [Disk.content, List.getElem?_append_left hid]
    exact hkind

theorem setContent {content : Content} (h : s.Owned count staged d) {id : Nat} (hid : count ≤ id)
    (hkind : content.isDevice = false) : s.Step count staged d (d.setContent id content) := by
  have hinside : s.Inside count d (d.setContent id content) :=
    { mark? := fun _ _ => rfl
      content := fun other hother => List.getElem?_set_ne (by omega)
      workingDirectory := rfl }
  refine ⟨⟨h.isOpen.keeps hinside.keeps, h.directory, ?_, fun other hother mark hmark => ?_⟩,
    hinside⟩
  · exact Nat.le_trans h.count_le (Nat.le_of_eq List.length_set.symm)
  · obtain ⟨old, rfl, hnew, hold, hregular⟩ := h.entry other hother mark hmark
    refine ⟨old, rfl, hnew, Nat.lt_of_lt_of_eq hold List.length_set.symm, ?_⟩
    by_cases hsame : id = old
    · subst hsame
      rw [Disk.content, Disk.setContent, List.getElem?_set_self hold]
      exact hkind
    · rw [Disk.content, Disk.setContent, List.getElem?_set_ne hsame]
      exact hregular

/-- New directories elsewhere do not matter. -/
theorem grown (h : s.Owned count staged d) (hgrown : d.Grown d')
    (hsame : ∀ q, s.place <+: q → d'.mark? q = d.mark? q) : s.Owned count staged d' where
  isOpen := h.isOpen.keeps (keeps_of_grown hgrown)
  directory := hgrown.mark?_of_some h.directory
  count_le := Nat.le_trans h.count_le hgrown.length_le
  entry other hother mark hmark := by
    rw [hsame _ (List.prefix_append _ _)] at hmark
    obtain ⟨id, rfl, hnew, hid, hkind⟩ := h.entry other hother mark hmark
    refine ⟨id, rfl, hnew, Nat.lt_of_lt_of_le hid hgrown.length_le, ?_⟩
    rw [hgrown.content_eq hid]
    exact hkind

variable {bytes : Text.Bytes}

/-- A file of a workspace that is opened to be written is one of its own. -/
theorem openFile {id : Nat} (h : s.Owned count staged d) (hpath : s.path.text ≠ "")
    (hname : IsPlain name) (hown : name ≠ staged ∨ d.mark? (s.place ++ [name]) = none)
    (hopen : d.openFile ((⟨s.path⟩ : Workspace).file name) = .ok (d', id)) :
    s.Step count staged d d' ∧ count ≤ id ∧ (d'.content id).isDevice = false ∧
      id < d'.files.length ∧ d'.mark? (s.place ++ [name]) = some (.file id) := by
  have hend : ∀ target, d.mark? (s.place ++ [name]) ≠ some (.link target) := by
    intro target htarget
    rcases hown with hother | hnone
    · obtain ⟨id, hfile, -⟩ := h.entry name hother _ htarget
      cases hfile
    · rw [hnone] at htarget
      cases htarget
  rw [Disk.openFile] at hopen
  cases hreach : d.reach ((⟨s.path⟩ : Workspace).file name) with
  | error e => rw [hreach] at hopen; cases hopen
  | ok location =>
    obtain rfl := h.isOpen.locateBy_file h.directory hpath hname (fun _ => hend) hreach
    rw [hreach] at hopen
    cases hfound : d.root.find? (s.place ++ [name]) with
    | none =>
      rw [hfound] at hopen
      obtain ⟨rfl, rfl⟩ := Prod.mk.inj (Except.ok.inj hopen)
      have hextend := h.extend d.newContent
      have hset : s.Step count staged { d with files := d.files ++ [d.newContent] }
          (d.addFile (s.place ++ [name]) d.newContent) := hextend.owned.set fun found hentry _ => by
        cases hentry
        refine ⟨_, rfl, h.count_le, by simp, ?_⟩
        rw [Disk.content, List.getElem?_append_right (Nat.le_refl _), Nat.sub_self]
        rfl
      refine ⟨hextend.trans hset, h.count_le, ?_, by simp [Disk.addFile], ?_⟩
      · rw [Disk.content, Disk.addFile, List.getElem?_append_right (Nat.le_refl _), Nat.sub_self]
        rfl
      · exact Disk.mark?_set_self h.directory
    | some entry =>
      rw [hfound] at hopen
      cases entry with
      | directory | link => cases hopen
      | file old =>
        obtain ⟨rfl, rfl⟩ := Prod.mk.inj (Except.ok.inj hopen)
        have hmark := Disk.mark?_of_find?_root hfound
        rcases hown with hother | hnone
        · obtain ⟨id, hfile, hnew, hid, hkind⟩ := h.entry name hother _ hmark
          cases hfile
          exact ⟨.refl h, hnew, hkind, hid, hmark⟩
        · rw [hnone] at hmark
          cases hmark

theorem isDevice_refilled {content : Content} {now : Int} (h : content.isDevice = false) :
    (content.refilled bytes now).isDevice = false := by
  rw [Content.refilled, h]
  rfl

theorem write (h : s.Owned count staged d) (hpath : s.path.text ≠ "") (hname : IsPlain name)
    (hother : name ≠ staged)
    (hwrite : d.write ((⟨s.path⟩ : Workspace).file name) bytes = .ok d') :
    s.Step count staged d d' := by
  rw [Disk.write] at hwrite
  cases hopen : d.openFile ((⟨s.path⟩ : Workspace).file name) with
  | error e => rw [hopen] at hwrite; cases hwrite
  | ok opened =>
    obtain ⟨d₁, id⟩ := opened
    rw [hopen] at hwrite
    obtain rfl := Except.ok.inj hwrite
    obtain ⟨hstep, hnew, hkind, -⟩ := h.openFile hpath hname (Or.inl hother) hopen
    exact hstep.trans (hstep.owned.setContent hnew (isDevice_refilled hkind))

theorem removeFile (h : s.Owned count staged d) (hpath : s.path.text ≠ "") (hname : IsPlain name)
    (hremove : d.removeFile ((⟨s.path⟩ : Workspace).file name) = .ok d') :
    s.Step count staged d d' := by
  rw [Disk.removeFile] at hremove
  cases hlocate : d.locate ((⟨s.path⟩ : Workspace).file name) with
  | error e => rw [hlocate] at hremove; cases hremove
  | ok location =>
    obtain rfl := h.isOpen.locateBy_file h.directory hpath hname (fun hfollow => by cases hfollow)
      hlocate
    rw [hlocate] at hremove
    match hfound : d.root.find? (s.place ++ [name]) with
    | none | some (.directory _) =>
      rw [hfound] at hremove
      cases hremove
    | some (.file _) | some (.link _) =>
      rw [hfound] at hremove
      obtain rfl := Except.ok.inj hremove
      exact h.set nofun

/-- A second name for the source, in a workspace that does not have it yet. -/
theorem link {source : Path} (h : s.Owned count staged d) (hpath : s.path.text ≠ "")
    (hname : IsPlain staged)
    (hlink : d.link source ((⟨s.path⟩ : Workspace).file staged) = .ok d') :
    s.Step count staged d d' := by
  rw [Disk.link] at hlink
  cases hlook : d.lookHere source with
  | error e => rw [hlook] at hlink; cases hlink
  | ok entry =>
    rw [hlook] at hlink
    change (d.locate _ >>= _) = _ at hlink
    cases hlocate : d.locate ((⟨s.path⟩ : Workspace).file staged) with
    | error e => rw [hlocate] at hlink; cases hlink
    | ok location =>
      obtain rfl := h.isOpen.locateBy_file h.directory hpath hname (fun hfollow => by cases hfollow)
        hlocate
      rw [hlocate] at hlink
      cases hfound : d.root.find? (s.place ++ [staged]) with
      | some found => rw [hfound] at hlink; cases hlink
      | none =>
        rw [hfound] at hlink
        change (if entry.isDirectory = true then _ else if d.isDevice (some entry) = true then _
          else _) = _ at hlink
        split at hlink
        · cases hlink
        · split at hlink
          · cases hlink
          · obtain rfl := Except.ok.inj hlink
            exact h.set fun _ _ hother => absurd rfl hother

theorem isDevice_setContent {content : Content} {id other : Nat} (hnew : content.isDevice = false)
    (h : (d.content id).isDevice = false) :
    ((d.setContent other content).content id).isDevice = false := by
  by_cases hsame : other = id
  · subst hsame
    rw [Disk.content, Disk.setContent, List.getElem?_set]
    split
    · split
      · exact hnew
      · rfl
    · rename_i hne
      exact absurd rfl hne
  · rw [Disk.content, Disk.setContent, List.getElem?_set_ne hsame]
    exact h

/-- A file that is made is no device, and makes none of another file. -/
theorem isDevice_openFile {p : Path} {id opened : Nat} (h : (d.content id).isDevice = false)
    (hopen : d.openFile p = .ok (d', opened)) : (d'.content id).isDevice = false := by
  rw [Disk.openFile] at hopen
  cases hreach : d.reach p with
  | error e => rw [hreach] at hopen; cases hopen
  | ok location =>
    rw [hreach] at hopen
    match location with
    | .directory _ | .name _ _ _ true | .name _ _ (some (.directory _)) false
    | .name _ _ (some (.link _)) false => cases hopen
    | .name _ _ (some (.file _)) false =>
      obtain ⟨rfl, -⟩ := Prod.mk.inj (Except.ok.inj hopen)
      exact h
    | .name _ _ none false =>
      obtain ⟨rfl, -⟩ := Prod.mk.inj (Except.ok.inj hopen)
      by_cases hid : id < d.files.length
      · rw [Disk.content, Disk.addFile, List.getElem?_append_left hid]
        exact h
      · rw [Disk.content, Disk.addFile, List.getElem?_append_right (Nat.le_of_not_lt hid)]
        cases id - d.files.length <;> rfl

/-- A copy of the source, in a workspace that does not have it yet. -/
theorem copy {source : Path} (h : s.Owned count staged d) (hpath : s.path.text ≠ "")
    (hname : IsPlain staged) (hnone : d.mark? (s.place ++ [staged]) = none)
    (hcopy : d.copy source ((⟨s.path⟩ : Workspace).file staged) = .ok d') :
    s.Step count staged d d' := by
  rw [Disk.copy] at hcopy
  cases hlook : d.look source with
  | error e => rw [hlook] at hcopy; cases hcopy
  | ok entry =>
    rw [hlook] at hcopy
    cases entry with
    | directory | link => cases hcopy
    | file id =>
      change (if (d.content id).isDevice = true then _ else _) = _ at hcopy
      split at hcopy
      · cases hcopy
      rename_i hdevice
      cases hopen : d.openFile ((⟨s.path⟩ : Workspace).file staged) with
      | error e => rw [hopen] at hcopy; cases hcopy
      | ok opened =>
        obtain ⟨d₁, copied⟩ := opened
        obtain ⟨hstep, hnew, hkind, -⟩ := h.openFile hpath hname (Or.inr hnone) hopen
        rw [hopen] at hcopy
        change (if (d₁.content copied).kind = .full ∧ _ then _ else
          if (d₁.content copied).isDevice = true then _ else _) = _ at hcopy
        split at hcopy
        · cases hcopy
        · rw [if_neg (by rw [hkind]; exact Bool.false_ne_true)] at hcopy
          obtain rfl := Except.ok.inj hcopy
          have hblank := hstep.owned.setContent hnew
            (show (Content.new (d.content id).mode d₁.now).isDevice = false from rfl)
          refine hstep.trans (hblank.trans (hblank.owned.setContent hnew ?_))
          exact isDevice_setContent rfl (isDevice_openFile (eq_false_of_ne_true hdevice) hopen)

theorem touched (h : s.Owned count staged d) (hpath : s.path.text ≠ "") (hname : IsPlain name)
    (hother : name ≠ staged) (htouched : d.Touched ((⟨s.path⟩ : Workspace).file name) d') :
    s.Step count staged d d' := by
  induction htouched with
  | untouched => exact .refl h
  | written _ hwrite ih => exact ih.trans (ih.owned.write hpath hname hother hwrite)
  | removed _ hremove ih => exact ih.trans (ih.owned.removeFile hpath hname hremove)

end Owned

/-! ### Removing a workspace -/

/-- Nothing is left at a site, and all else is as it was. -/
structure Cleared (s : Site) (d d' : Disk) : Prop where
  mark? : ∀ q, d'.mark? q = if s.place <+: q then none else d.mark? q
  files : d'.files = d.files
  workingDirectory : d'.workingDirectory = d.workingDirectory

/-- A directory to which the way is open can be removed with all that is in it. -/
theorem removeTree_cleared (hopen : s.IsOpen d) (hdirectory : d.mark? s.place = some .directory) :
    s.Cleared d (d.removeTree s.path).2 := by
  obtain ⟨entries, hentries⟩ := Disk.find?_root_of_mark?_directory hdirectory
  have hlocate := hopen.locateBy (by rw [hdirectory]; exact nofun) false
  rw [hentries] at hlocate
  have hlook : d.lookHere s.path = .ok (.directory entries) := by
    rw [Disk.lookHere, Disk.locate, hlocate]
    rfl
  have hparent : d.mark? s.parent = some .directory := Disk.mark?_parent hlocate
  let emptied : Disk := d.set s.place (some (.directory []))
  have hemptied : emptied.root.find? s.place = some (.directory []) := by
    have hset : emptied.root.find? (s.parent ++ [s.name] ++ []) = some (.directory []) :=
      Disk.find?_root_set_append hparent []
    rw [List.append_nil] at hset
    exact hset
  have hkeeps : s.Keeps d emptied :=
    { mark? := fun q mark hq _ hd => (Disk.mark?_set_of_not_isPrefix hq).trans hd
      workingDirectory := rfl }
  have hagain := hopen emptied hkeeps (by
    rw [Disk.mark?_of_find?_root hemptied]
    exact nofun) false
  rw [hemptied] at hagain
  have hremoved : (d.removeTree s.path).2 = emptied.set s.place none := by
    rw [Disk.removeTree, hlook, Disk.locate, hlocate]
    have hclear :
        d.clear (Location.name s.parent s.name (some (.directory entries)) s.slash).place =
          emptied := if_neg s.place_ne_nil
    simp only [hclear]
    rw [Disk.removeDirectory, Disk.locate, hagain]
    rfl
  rw [hremoved]
  refine ⟨fun q => ?_, rfl, rfl⟩
  rw [Disk.mark?_set_none s.place_ne_nil]
  split
  · rfl
  · rename_i hq
    exact Disk.mark?_set_of_not_isPrefix hq

/-- Nothing outside of a site is changed. -/
structure Spares (s : Site) (d d' : Disk) : Prop where
  mark? : ∀ q, ¬ s.place <+: q → d'.mark? q = d.mark? q
  files : d'.files = d.files
  workingDirectory : d'.workingDirectory = d.workingDirectory

theorem Spares.refl (s : Site) (d : Disk) : s.Spares d d where
  mark? _ _ := rfl
  files := rfl
  workingDirectory := rfl

theorem Cleared.spares (h : s.Cleared d d') : s.Spares d d' where
  mark? q hq := by rw [h.mark?, if_neg hq]
  files := h.files
  workingDirectory := h.workingDirectory

/-- A removal does nothing where the path does not lead to a directory. -/
theorem removeTree_spares_of_lookHere {p : Path}
    (h : ∀ entry, d.lookHere p = .ok entry → ∃ id, entry = .file id) :
    s.Spares d (d.removeTree p).2 := by
  rw [Disk.removeTree]
  cases hlook : d.lookHere p with
  | error e => exact .refl s d
  | ok entry =>
    obtain ⟨id, rfl⟩ := h entry hlook
    exact .refl s d

/-- A removal changes nothing outside of a site also where files stand in its way. -/
theorem removeTree_spares {v : Disk}
    (hv : v.locate s.path = .ok (.name s.parent s.name none s.slash))
    (hdirectory : d.mark? s.place = some .directory)
    (hcarries : Leads.Carries v.mark? d.mark? d.mark?)
    (hworking : d.workingDirectory = v.workingDirectory)
    (hlink : ∀ q target, v.mark? q = some (.link target) →
      d.mark? q = some (.link target) ∨ ∃ id, d.mark? q = some (.file id)) :
    s.Spares d (d.removeTree s.path).2 := by
  have hsite : ∀ target, d.mark? s.place ≠ some (.link target) := by
    rw [hdirectory]
    exact nofun
  cases hlocate : d.locate s.path with
  | error e =>
    refine removeTree_spares_of_lookHere fun entry hlook => ?_
    rw [Disk.lookHere, hlocate] at hlook
    cases hlook
  | ok location =>
    obtain ⟨parent, name, found, slash, rfl⟩ :=
      Disk.exists_name_of_locateBy hv hlocate hcarries hsite hworking
    by_cases hfile : ∃ id, d.mark? (parent ++ [name]) = some (.file id)
    · obtain ⟨id, hfile⟩ := hfile
      obtain ⟨-, -, -, hfound⟩ := Disk.reaches_of_locateBy hlocate
      rw [Disk.find?_root_of_mark?_file hfile] at hfound
      refine removeTree_spares_of_lookHere fun entry hlook => ⟨id, ?_⟩
      rw [Disk.lookHere, hlocate, hfound] at hlook
      cases slash with
      | true => cases hlook
      | false => exact (Except.ok.inj hlook).symm
    · have hopen := isOpen_of_name hv hlocate hcarries
        (fun target htarget => (hlink _ target htarget).resolve_right hfile) hsite hworking
      exact (removeTree_cleared hopen hdirectory).spares

end Site

end Montage
