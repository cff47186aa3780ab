import Montage.Proofs.Disk.Locate
import Montage.Proofs.Disk.Path

/-! Making directories adds directories where nothing was, and changes nothing else. -/
namespace Montage

namespace Disk

open Spot (linkLimit)

variable {d d' d'' v : Disk} {p q : Path} {parent place : Place} {name : String} {slash : Bool}

theorem content_eq_of_files {id : Nat} (hid : id < d.files.length)
    (hfile : d'.files[id]? = d.files[id]?) : d'.content id = d.content id := by
  rw [List.getElem?_eq_getElem hid] at hfile
  rw [content, content, hfile, List.getElem?_eq_getElem hid]
  rfl

/-- A disk with directories added where nothing was. -/
structure Grown (d d' : Disk) : Prop where
  mark? : ∀ place, d'.mark? place = d.mark? place ∨
    d.mark? place = none ∧ d'.mark? place = some .directory
  content : ∀ id < d.files.length, d'.files[id]? = d.files[id]?
  workingDirectory : d'.workingDirectory = d.workingDirectory

namespace Grown

theorem refl (d : Disk) : Grown d d where
  mark? _ := Or.inl rfl
  content _ _ := rfl
  workingDirectory := rfl

theorem length_le (h : Grown d d') : d.files.length ≤ d'.files.length := by
  rcases Nat.eq_zero_or_pos d.files.length with hzero | hpos
  · omega
  · have hlast := h.content (d.files.length - 1) (by omega)
    rw [List.getElem?_eq_getElem (by omega : d.files.length - 1 < d.files.length)] at hlast
    obtain ⟨hbound, -⟩ := List.getElem?_eq_some_iff.mp hlast
    omega

theorem trans (h : Grown d d') (h' : Grown d' d'') : Grown d d'' where
  mark? place := by
    rcases h'.mark? place with hsame | ⟨hnone, hmade⟩
    · rw [hsame]
      exact h.mark? place
    · rcases h.mark? place with hsame | ⟨-, hmade'⟩
      · exact Or.inr ⟨hsame ▸ hnone, hmade⟩
      · rw [hmade'] at hnone
        cases hnone
  content id hid := (h'.content id (Nat.lt_of_lt_of_le hid h.length_le)).trans (h.content id hid)
  workingDirectory := h'.workingDirectory.trans h.workingDirectory

theorem content_eq {id : Nat} (h : Grown d d') (hid : id < d.files.length) :
    d'.content id = d.content id :=
  content_eq_of_files hid (h.content id hid)

/-- What is there stays. -/
theorem mark?_of_some {mark : Mark} (h : Grown d d') (hmark : d.mark? place = some mark) :
    d'.mark? place = some mark := by
  rcases h.mark? place with hsame | ⟨hnone, -⟩
  · rw [hsame, hmark]
  · rw [hnone] at hmark
    cases hmark

/-- Files and links are those that were there. -/
theorem mark?_of_ne_directory {mark : Mark} (h : Grown d d') (hmark : d'.mark? place = some mark)
    (hother : mark ≠ .directory) : d.mark? place = some mark := by
  rcases h.mark? place with hsame | ⟨-, hmade⟩
  · rw [← hsame, hmark]
  · rw [hmade] at hmark
    exact absurd (Option.some.inj hmark).symm hother

theorem sound (h : Grown d d') (hsound : d.Sound) : d'.Sound := by
  intro place id hfile
  exact Nat.lt_of_lt_of_le (hsound place id (h.mark?_of_ne_directory hfile nofun)) h.length_le

end Grown

/-! ### One directory -/

theorem createDirectory_eq_ok (h : d.createDirectory p = .ok d') :
    ∃ parent name slash, d.locate p = .ok (.name parent name none slash) ∧
      d' = d.addDirectory (parent ++ [name]) := by
  rw [createDirectory] at h
  cases hlocate : d.locate p with
  | error e => rw [hlocate] at h; cases h
  | ok location =>
    rw [hlocate] at h
    cases location with
    | directory => cases h
    | name parent name found slash =>
      cases found with
      | some => cases h
      | none =>
        cases h
        exact ⟨parent, name, slash, rfl, rfl⟩

theorem mark?_of_locate_none (h : d.locate p = .ok (.name parent name none slash)) :
    d.mark? (parent ++ [name]) = none := by
  obtain ⟨here, -, -, hfound⟩ := reaches_of_locateBy h
  rw [mark?, ← hfound]
  rfl

theorem mark?_addDirectory (hparent : d.mark? parent = some .directory)
    (hnone : d.mark? (parent ++ [name]) = none) (q : Place) :
    (d.addDirectory (parent ++ [name])).mark? q =
      if q = parent ++ [name] then some .directory else d.mark? q := by
  by_cases hunder : parent ++ [name] <+: q
  · obtain ⟨below, rfl⟩ := hunder
    cases below with
    | nil =>
      rw [List.append_nil, if_pos rfl]
      exact mark?_set_self hparent
    | cons first rest =>
      rw [if_neg (by simp), mark?_eq_none_of_isPrefix hnone (List.prefix_append _ _)]
      refine mark?_set_append hparent (fun entries hentries => ?_) (List.cons_ne_nil first rest)
      cases hentries
      rfl
  · have hq : q ≠ parent ++ [name] := by
      rintro rfl
      exact hunder (List.prefix_refl _)
    rw [if_neg hq]
    exact mark?_set_of_not_isPrefix hunder

theorem grown_addDirectory (hparent : d.mark? parent = some .directory)
    (hnone : d.mark? (parent ++ [name]) = none) :
    Grown d (d.addDirectory (parent ++ [name])) where
  mark? place := by
    rw [mark?_addDirectory hparent hnone]
    split
    · rename_i hplace
      exact Or.inr ⟨hplace ▸ hnone, rfl⟩
    · exact Or.inl rfl
  content _ _ := rfl
  workingDirectory := rfl

theorem createDirectory_grown (h : d.createDirectory p = .ok d') : Grown d d' := by
  obtain ⟨parent, name, slash, hlocate, rfl⟩ := createDirectory_eq_ok h
  exact grown_addDirectory (mark?_parent hlocate) (mark?_of_locate_none hlocate)

/-! ### All directories on a way -/

section Along

variable {R : Disk → Disk → Prop} (hrefl : ∀ d, R d d)
  (htrans : ∀ a b c, R a b → R b c → R a c)

include hrefl htrans

theorem createAfter_rel {lead : Disk → Except FileError Unit × Disk} (hlead : ∀ d, R d (lead d).2)
    (hstep : ∀ d d', d.createDirectory p = .ok d' → R d d') (d : Disk) :
    R d (createAfter lead p d).2 := by
  rw [createAfter]
  split
  · rename_i hmade
    exact hstep _ _ hmade
  · have hled := hlead d
    split
    · rename_i hfailed
      rw [hfailed] at hled
      exact hled
    · rename_i hdone
      rw [hdone] at hled
      split
      · rename_i hmade
        exact htrans _ _ _ hled (hstep _ _ hmade)
      · exact hled
  · exact hrefl d

theorem createAlong_rel {absolute : Bool} {names : List String}
    (hstep : ∀ first rest, names.reverse = first ++ rest → first ≠ [] → ∀ d d',
      d.createDirectory (.ofNames absolute first) = .ok d' → R d d') (d : Disk) :
    R d (createAlong absolute names d).2 := by
  induction names generalizing d with
  | nil => exact hrefl d
  | cons name above ih =>
    refine createAfter_rel hrefl htrans (ih fun first rest hnames => ?_)
      (hstep _ [] (List.append_nil _).symm (by simp)) d
    exact hstep first (rest ++ [name]) (by rw [List.reverse_cons, hnames, List.append_assoc])

/-- What every directory that is made on the way keeps, all of them keep. -/
theorem createDirectories_rel (hlast : ∀ d d', d.createDirectory p = .ok d' → R d d')
    (hstep : ∀ first rest, p.names = first ++ rest → first ≠ [] → ∀ d d',
      d.createDirectory (.ofNames p.isAbsolute first) = .ok d' → R d d') (d : Disk) :
    R d (d.createDirectories p).2 := by
  rw [createDirectories]
  split
  · exact hrefl d
  · refine createAfter_rel hrefl htrans (createAlong_rel hrefl htrans ?_) hlast d
    intro first rest hnames
    rcases List.eq_nil_or_concat p.names with hnil | ⟨init, last, hconcat⟩
    · rw [hnil] at hnames
      simp only [List.reverse_nil, List.drop_nil] at hnames
      intro hfirst
      exact absurd (List.append_eq_nil_iff.mp hnames.symm).1 hfirst
    · rw [List.concat_eq_append] at hconcat
      have hinit : init = first ++ rest := by
        simpa [hconcat] using hnames
      exact hstep first (rest ++ [last]) (by rw [hconcat, hinit, List.append_assoc])

end Along

theorem createDirectories_grown (d : Disk) (p : Path) : Grown d (d.createDirectories p).2 :=
  createDirectories_rel Grown.refl (fun _ _ _ => Grown.trans) (fun _ _ => createDirectory_grown)
    (fun _ _ _ _ _ _ => createDirectory_grown) d

/-- Two disks agree on what can be passed on both, and one has the links of the other. -/
structure Fits (v d : Disk) : Prop where
  agree : Leads.Carries v.mark? d.mark? d.mark?
  link : ∀ place target, v.mark? place = some (.link target) → d.mark? place = some (.link target)
  workingDirectory : d.workingDirectory = v.workingDirectory

theorem Fits.refl (d : Disk) : Fits d d where
  agree _ _ _ _ _ hd hd' := ⟨Option.some.inj (hd'.symm.trans hd), hd⟩
  link _ _ hd := hd
  workingDirectory := rfl

/-- Names that lead on one disk lead to a directory there where they reach nothing on the other. -/
theorem Fits.mark?_of_reaches {follow slash' : Bool} {links more : Nat} {here stop : Place}
    {names rest : List String} (hfits : Fits v d)
    (h : Reaches d.mark? follow links here names slash parent name slash')
    (hleads : Leads v.mark? more here (names ++ rest) stop)
    (hnone : d.mark? (parent ++ [name]) = none) :
    v.mark? (parent ++ [name]) = some .directory := by
  induction h generalizing more rest stop with
  | last hinit hname _ =>
    rw [List.append_assoc] at hleads
    obtain ⟨used, left, mid, -, hmid, hstop⟩ := hleads.split
    obtain ⟨rfl, -⟩ := hmid.carry hinit hfits.agree
    cases hstop with
    | stay hdot => exact absurd hdot hname.1
    | up hdots => exact absurd hdots hname.2.1
    | enter _ hfound => exact hfound
    | follow _ hfound =>
      rw [hfits.link _ _ hfound] at hnone
      cases hnone
  | link hinit hfirst hfound _ _ ih =>
    rw [List.append_assoc] at hleads
    obtain ⟨used, left, mid, -, hmid, hstop⟩ := hleads.split
    obtain ⟨rfl, -⟩ := hmid.carry hinit hfits.agree
    cases hstop with
    | stay hdot => exact absurd hdot hfirst.1
    | up hdots => exact absurd hdots hfirst.2.1
    | enter _ hother => cases (hfits.agree _ _ _ rfl rfl hother hfound).1
    | follow _ hother hrest =>
      rw [hfits.link _ _ hother] at hfound
      cases hfound
      exact ih hrest hnone

theorem Fits.starts {here there : Place} (hfits : Fits v d) (hv : v.Starts p here)
    (hd : d.Starts q there) (habsolute : q.isAbsolute = p.isAbsolute) : there = here := by
  rw [Starts] at hv hd
  rw [habsolute] at hd
  split at hv
  · rename_i hroot
    rw [if_pos hroot] at hd
    rw [hv, hd]
  · rename_i hrelative
    rw [if_neg hrelative, hfits.workingDirectory] at hd
    exact (hv.carry hd hfits.agree).1

/-- A directory that both disks can have changes nothing between them. -/
theorem Fits.addDirectory (hfits : Fits v d) (hparent : d.mark? parent = some .directory)
    (hnone : d.mark? (parent ++ [name]) = none)
    (hthere : v.mark? (parent ++ [name]) = some .directory) :
    Fits v (d.addDirectory (parent ++ [name])) where
  agree place mark other hmark hother hv hd := by
    rw [mark?_addDirectory hparent hnone] at hd ⊢
    split at hd
    · rename_i hplace
      subst hplace
      rw [if_pos rfl]
      rw [hthere] at hv
      exact ⟨(Option.some.inj hd).symm.trans (Option.some.inj hv), hv⟩
    · rename_i hplace
      rw [if_neg hplace]
      exact hfits.agree place mark other hmark hother hv hd
  link place target hv := by
    rw [mark?_addDirectory hparent hnone]
    split
    · rename_i hplace
      rw [hplace, hthere] at hv
      cases hv
    · exact hfits.link place target hv
  workingDirectory := hfits.workingDirectory

/-- Directories made along names that lead on another disk are directories there. -/
theorem Fits.createDirectories {absolute : Bool} {names : List String} {here stop : Place}
    {more : Nat} (hfits : Fits v d) (hnames : ∀ name ∈ names, IsStep name ∧ name ≠ ".")
    (hstarts : v.Starts (.ofNames absolute names) here)
    (hleads : Leads v.mark? more here names stop) :
    Fits v (d.createDirectories (.ofNames absolute names)).2 ∧
      ∀ place, (d.createDirectories (.ofNames absolute names)).2.mark? place = d.mark? place ∨
        v.mark? place = some .directory := by
  let R (d d' : Disk) : Prop := Fits v d → Fits v d' ∧
    ∀ place, d'.mark? place = d.mark? place ∨ v.mark? place = some .directory
  have hrefl (d : Disk) : R d d := fun hfits => ⟨hfits, fun _ => Or.inl rfl⟩
  have htrans (a b c : Disk) (hab : R a b) (hbc : R b c) : R a c := by
    intro hfits
    obtain ⟨hb, hsame⟩ := hab hfits
    obtain ⟨hc, hsame'⟩ := hbc hb
    refine ⟨hc, fun place => ?_⟩
    rcases hsame' place with heq | hthere
    · rw [heq]
      exact hsame place
    · exact Or.inr hthere
  have hsteps : (Path.ofNames absolute names).steps = names :=
    Path.steps_ofNames fun name hname => (hnames name hname).1
  have habsolute : (Path.ofNames absolute names).isAbsolute = absolute :=
    Path.isAbsolute_ofNames fun name hname => (hnames name hname).1
  have hstep (first rest : List String) (hsplit : names = first ++ rest) (d d' : Disk)
      (h : d.createDirectory (.ofNames absolute first) = .ok d') : R d d' := by
    intro hfits
    have hfirst : ∀ name ∈ first, IsStep name := fun name hname =>
      (hnames name (hsplit ▸ List.mem_append_left rest hname)).1
    obtain ⟨parent, name, slash, hlocate, rfl⟩ := createDirectory_eq_ok h
    have hparent := mark?_parent hlocate
    have hnone := mark?_of_locate_none hlocate
    obtain ⟨there, hthere, hreaches, -⟩ := reaches_of_locateBy hlocate
    obtain rfl := hfits.starts hstarts hthere
      ((Path.isAbsolute_ofNames hfirst).trans habsolute.symm)
    rw [Path.steps_ofNames hfirst] at hreaches
    have hmade := hfits.mark?_of_reaches hreaches (hsplit ▸ hleads) hnone
    refine ⟨hfits.addDirectory hparent hnone hmade, fun place => ?_⟩
    rw [mark?_addDirectory hparent hnone]
    split
    · rename_i hplace
      exact Or.inr (hplace ▸ hmade)
    · exact Or.inl rfl
  have hall : (Path.ofNames absolute names).names = names := by
    rw [Path.names, hsteps]
    exact List.filter_eq_self.mpr fun name hname => by simpa using (hnames name hname).2
  refine createDirectories_rel hrefl htrans (hstep names [] (List.append_nil _).symm)
    (fun first rest hsplit _ => ?_) d hfits
  rw [habsolute]
  exact hstep first rest (hall ▸ hsplit)

/-- The way to a name leads to the directory that the path without its last name stands for. -/
theorem leads_parent {found : Option Entry} (h : d.locate p = .ok (.name parent name found slash)) :
    ∃ here init last stop, p.steps = init ++ [last] ∧ d.Starts p here ∧
      Leads d.mark? linkLimit here (init.filter (· ≠ ".")) stop ∧
      p.parent? = some (.ofNames p.isAbsolute (init.filter (· ≠ "."))) := by
  obtain ⟨here, hstarts, hreaches, -⟩ := reaches_of_locateBy h
  have hlast : ∃ init last stop, p.steps = init ++ [last] ∧ IsName last ∧
      Leads d.mark? linkLimit here init stop := by
    generalize p.steps = names at hreaches
    cases hreaches with
    | last hinit hname => exact ⟨_, _, _, rfl, hname, hinit⟩
    | link hinit hfirst => exact ⟨_, _, _, rfl, hfirst, hinit⟩
  obtain ⟨init, last, stop, hsteps, hname, hinit⟩ := hlast
  refine ⟨here, init, last, stop, hsteps, hstarts, hinit.filter_dots, ?_⟩
  have hnames : p.names = init.filter (· ≠ ".") ++ [last] := by
    rw [Path.names, hsteps, List.filter_append, List.filter_cons_of_pos (by simpa using hname.1)]
    rfl
  rw [Path.parent?, hnames]
  cases hfirst : init.filter (· ≠ ".") ++ [last] with
  | nil => simp at hfirst
  | cons first rest =>
    have hinit := congrArg List.dropLast hfirst
    rw [List.dropLast_concat] at hinit
    rw [hinit]

/-! ### Where a path leads in the end -/

/-- A path leads to a place as soon as the directories on its way are there. -/
def LeadsTo (d : Disk) (p : Path) (place : Place) : Prop :=
  ∃ d', Grown d d' ∧ ∃ parent name found slash,
    d'.locate p = .ok (.name parent name found slash) ∧ parent ++ [name] = place

/-- A path leads past a place: as soon as the directories on its way are there, it leads to another
place also when there is nothing at that one. -/
def Avoids (d : Disk) (p : Path) (hole : Place) : Prop :=
  ∃ d', Grown (d.set hole none) d' ∧ d'.mark? hole = none ∧ ∃ parent name found slash,
    d'.locate p = .ok (.name parent name found slash) ∧ parent ++ [name] ≠ hole

theorem grown_set_none (hplace : place ≠ []) (hnone : d.mark? place = none) :
    Grown d (d.set place none) where
  mark? q := by
    rw [mark?_set_none hplace]
    split
    · rename_i hunder
      exact Or.inl (mark?_eq_none_of_isPrefix hnone hunder).symm
    · exact Or.inl rfl
  content _ _ := rfl
  workingDirectory := rfl

/-- Two disks that have grown from one agree on what is on both. -/
theorem Grown.agree {mark other : Mark} (h : Grown d d') (h' : Grown d d'')
    (hd' : d'.mark? place = some mark) (hd'' : d''.mark? place = some other) : other = mark := by
  rcases h.mark? place with hsame | ⟨hnone, hmade⟩
  · rw [hsame] at hd'
    exact Option.some.inj (hd''.symm.trans (h'.mark?_of_some hd'))
  · rcases h'.mark? place with hsame' | ⟨-, hmade'⟩
    · rw [hsame', hnone] at hd''
      cases hd''
    · rw [hmade] at hd'
      rw [hmade'] at hd''
      exact (Option.some.inj hd'').symm.trans (Option.some.inj hd')

end Disk

end Montage
