import Montage.Proofs.Disk.Way

/-! Where a path leads, told from what is marked at each place that it passes. -/
namespace Montage

open Spot (linkLimit)

/-- Names lead to a name in a directory. A link at the end is passed when it is followed or when a
slash comes after it. -/
inductive Reaches (view : Place → Option Mark) :
    Bool → Nat → Place → List String → Bool → Place → String → Bool → Prop
  | last {follow slash : Bool} {links : Nat} {here parent : Place} {init : List String}
      {name : String} (hinit : Leads view linkLimit here init parent) (hname : IsName name)
      (hend : ∀ target, view (parent ++ [name]) = some (.link target) →
        (follow || slash) = false) :
      Reaches view follow links here (init ++ [name]) slash parent name slash
  | link {follow slash slash' : Bool} {links : Nat} {here mid parent : Place} {init : List String}
      {first name : String} {target : Path} (hinit : Leads view linkLimit here init mid)
      (hfirst : IsName first) (hfound : view (mid ++ [first]) = some (.link target))
      (hpass : (follow || slash) = true)
      (hrest : Reaches view true links (if target.isAbsolute then [] else mid) target.steps
        (slash || target.endsInSlash) parent name slash') :
      Reaches view follow (links + 1) here (init ++ [first]) slash parent name slash'

/-! ### Looking up names -/

namespace Disk

variable {d : Disk} {follow slash slash' : Bool} {links : Nat} {s mid : Spot}
  {names init : List String} {parent : Place} {name last : String} {found : Option Entry}
  {location : Location}

theorem locateFrom_nil : d.locateFrom follow links s [] slash = .ok (.directory s) := by
  cases links <;> rfl

theorem locateFrom_dots (hlast : last = "." ∨ last = "..") :
    d.locateFrom follow links s (init ++ [last]) slash =
      (Spot.walk d.top linkLimit s (init ++ [last])).map .directory := by
  cases links <;> rw [locateFrom, locateUntil, List.getLast?_concat] <;> exact if_pos hlast

theorem locateFrom_of_name (hdots : ¬ (last = "." ∨ last = "..")) :
    d.locateFrom follow links s (init ++ [last]) slash =
      (Spot.walk d.top linkLimit s init).bind fun mid => (mid.lookup last).bind fun
        | some (.link target) =>
          if follow || slash then
            match links with
            | 0 => .error .tooManyLinks
            | less + 1 => d.locateFrom true less (if target.isAbsolute then d.top else mid)
                target.steps (slash || target.endsInSlash)
          else .ok (.name mid.place last (some (.link target)) slash)
        | found => .ok (.name mid.place last found slash) := by
  cases links <;>
    (rw [locateFrom, locateUntil, List.getLast?_concat, List.dropLast_concat]; exact if_neg hdots)

theorem locateFrom_of_end (hname : IsName last) (hwalk : Spot.walk d.top linkLimit s init = .ok mid)
    (hend : ∀ target, mid.entries.lookup last = some (.link target) → (follow || slash) = false) :
    d.locateFrom follow links s (init ++ [last]) slash =
      .ok (.name mid.place last (mid.entries.lookup last) slash) := by
  rw [locateFrom_of_name (not_or.mpr ⟨hname.1, hname.2.1⟩), hwalk]
  change (mid.lookup last).bind _ = _
  rw [Spot.lookup_of_isName hname]
  match hfound : mid.entries.lookup last with
  | some (.link target) =>
    change (if (follow || slash) = true then _ else _) = _
    rw [hend target hfound]
    rfl
  | none | some (.file _) | some (.directory _) => rfl

theorem locateFrom_of_link {target : Path} (hname : IsName last)
    (hwalk : Spot.walk d.top linkLimit s init = .ok mid)
    (hfound : mid.entries.lookup last = some (.link target)) (hpass : (follow || slash) = true) :
    d.locateFrom follow (links + 1) s (init ++ [last]) slash =
      d.locateFrom true links (if target.isAbsolute then d.top else mid) target.steps
        (slash || target.endsInSlash) := by
  rw [locateFrom_of_name (not_or.mpr ⟨hname.1, hname.2.1⟩), hwalk]
  change (mid.lookup last).bind _ = _
  rw [Spot.lookup_of_isName hname, hfound]
  exact if_pos hpass

theorem isName_of_locateFrom (h : d.locateFrom follow links s (init ++ [last]) slash = .ok location)
    (hdots : ¬ (last = "." ∨ last = "..")) : IsName last := by
  rw [locateFrom_of_name hdots] at h
  rw [not_or] at hdots
  cases hwalk : Spot.walk d.top linkLimit s init with
  | error e => rw [hwalk] at h; cases h
  | ok mid =>
    rw [hwalk] at h
    change (mid.lookup last).bind _ = _ at h
    refine ⟨hdots.1, hdots.2, ?_⟩
    by_contra hlong
    rw [Spot.lookup, if_pos (Nat.lt_of_not_le hlong)] at h
    cases h

/-- A name in a directory is where a path ends, unless it is a link that is passed. -/
theorem locateFrom_cases (hdots : ¬ (last = "." ∨ last = ".."))
    (h : d.locateFrom follow links s (init ++ [last]) slash = .ok location) :
    ∃ mid, Spot.walk d.top linkLimit s init = .ok mid ∧
      ((location = .name mid.place last (mid.entries.lookup last) slash ∧
          ∀ target, mid.entries.lookup last = some (.link target) → (follow || slash) = false) ∨
        ∃ target less, mid.entries.lookup last = some (.link target) ∧
          (follow || slash) = true ∧ links = less + 1 ∧
          d.locateFrom true less (if target.isAbsolute then d.top else mid) target.steps
            (slash || target.endsInSlash) = .ok location) := by
  have hname := isName_of_locateFrom h hdots
  rw [locateFrom_of_name hdots] at h
  cases hwalk : Spot.walk d.top linkLimit s init with
  | error e => rw [hwalk] at h; cases h
  | ok mid =>
    rw [hwalk] at h
    change (mid.lookup last).bind _ = _ at h
    refine ⟨mid, rfl, ?_⟩
    rw [Spot.lookup_of_isName hname] at h
    match hfound : mid.entries.lookup last with
    | none | some (.file _) | some (.directory _) =>
      rw [hfound] at h
      exact Or.inl ⟨(Except.ok.inj h).symm, nofun⟩
    | some (.link target) =>
      rw [hfound] at h
      change (if (follow || slash) = true then _ else _) = _ at h
      split at h
      · rename_i hpass
        cases links with
        | zero => cases h
        | succ less => exact Or.inr ⟨target, less, rfl, hpass, rfl, h⟩
      · rename_i hstay
        exact Or.inl ⟨(Except.ok.inj h).symm, fun _ _ => by simpa using hstay⟩

/-- A path that ends at a name does not end in dots. -/
theorem exists_of_locateFrom_name (h : d.locateFrom follow links s names slash =
      .ok (.name parent name found slash')) :
    ∃ init last, names = init ++ [last] ∧ ¬ (last = "." ∨ last = "..") := by
  rcases List.eq_nil_or_concat names with rfl | ⟨init, last, rfl⟩
  · rw [locateFrom_nil] at h
    cases h
  rw [List.concat_eq_append] at h ⊢
  refine ⟨init, last, rfl, fun hdots => ?_⟩
  rw [locateFrom_dots hdots] at h
  cases hwalk : Spot.walk d.top linkLimit s (init ++ [last]) with
  | error e => rw [hwalk] at h; cases h
  | ok stop => rw [hwalk] at h; cases h

theorem reaches_of_locateFrom (hs : s.Within d.root)
    (h : d.locateFrom follow links s names slash = .ok (.name parent name found slash')) :
    Reaches d.mark? follow links s.place names slash parent name slash' ∧
      found = d.root.find? (parent ++ [name]) := by
  induction links using Nat.strongRecOn generalizing follow s names slash with
  | ind links ih =>
    obtain ⟨init, last, rfl, hdots⟩ := exists_of_locateFrom_name h
    have hname := isName_of_locateFrom h hdots
    obtain ⟨mid, hwalk, hend⟩ := locateFrom_cases hdots h
    obtain ⟨hmid, hinit⟩ := Spot.leads_of_walk hs hwalk
    rcases hend with ⟨hlocation, hend⟩ | ⟨target, less, hfound, hpass, rfl, hgo⟩
    · cases hlocation
      refine ⟨.last hinit hname fun target htarget => hend target ?_, (hmid.find?_append _).symm⟩
      rw [← hmid.find?_append]
      exact find?_root_of_mark?_link htarget
    · obtain ⟨hrest, hthere⟩ := ih less (Nat.lt_succ_self less) (hmid.turn target) hgo
      rw [Spot.place_turn] at hrest
      refine ⟨.link hinit hname ?_ hpass hrest, hthere⟩
      exact mark?_of_find?_root ((hmid.find?_append _).trans hfound)

theorem locateFrom_of_reaches {here : Place}
    (h : Reaches d.mark? follow links here names slash parent name slash')
    (hs : s.Within d.root) (hplace : s.place = here) :
    d.locateFrom follow links s names slash =
      .ok (.name parent name (d.root.find? (parent ++ [name])) slash') := by
  induction h generalizing s with
  | last hinit hname hend =>
    obtain ⟨mid, hwalk, hmid, rfl⟩ := Spot.walk_of_leads hinit hs hplace
    rw [hmid.find?_append]
    refine locateFrom_of_end hname hwalk fun target htarget => hend target ?_
    exact mark?_of_find?_root ((hmid.find?_append _).trans htarget)
  | link hinit hfirst hfound hpass _ ih =>
    obtain ⟨mid, hwalk, hmid, rfl⟩ := Spot.walk_of_leads hinit hs hplace
    have hlink := find?_root_of_mark?_link hfound
    rw [hmid.find?_append] at hlink
    rw [locateFrom_of_link hfirst hwalk hlink hpass]
    exact ih (hmid.turn _) (Spot.place_turn _)

end Disk

/-! ### Several disks -/

namespace Reaches

variable {view seen final : Place → Option Mark} {follow slash slash' slash'' : Bool}
  {links more : Nat} {here parent parent' stop : Place} {names : List String}
  {name name' : String}

theorem isName (h : Reaches view follow links here names slash parent name slash') :
    IsName name := by
  induction h with
  | last _ hname => exact hname
  | link _ _ _ _ _ ih => exact ih

/-- A slash is not lost. -/
theorem slash_of_slash (h : Reaches view follow links here names slash parent name slash')
    (hslash : slash = true) : slash' = true := by
  induction h with
  | last => exact hslash
  | link _ _ _ _ _ ih => exact ih (by rw [hslash]; rfl)

/-- Without a slash, the last of the names is the one that is reached. -/
theorem of_no_slash (h : Reaches view false links here names false parent name slash') :
    slash' = false ∧ ∃ init, names = init ++ [name] ∧ Leads view linkLimit here init parent := by
  cases h with
  | last hinit => exact ⟨rfl, _, rfl, hinit⟩
  | link _ _ _ hpass => cases hpass

/-- A name that is no link is reached whether or not links are followed there. -/
theorem following (h : Reaches view false links here names slash parent name slash')
    (hend : ∀ target, view (parent ++ [name]) ≠ some (.link target)) :
    Reaches view true links here names slash parent name slash' := by
  cases h with
  | last hinit hname => exact .last hinit hname fun target htarget => absurd htarget (hend target)
  | link hinit hfirst hfound _ hrest => exact .link hinit hfirst hfound rfl hrest

/-- What is reached on one disk is reached on another one that has the same links where one of the
two ways ends, and on a third disk on which nothing that both pass is lost. -/
theorem carry (h : Reaches view follow links here names slash parent name slash')
    (hseen : Reaches seen follow more here names slash parent' name' slash'')
    (hcarries : Leads.Carries view seen final)
    (hlink : ∀ target, view (parent' ++ [name']) = some (.link target) →
      seen (parent' ++ [name']) = some (.link target))
    (hback : ∀ target, seen (parent ++ [name]) = some (.link target) →
      view (parent ++ [name]) = some (.link target))
    (hend : parent' ++ [name'] = parent ++ [name] →
      ∀ target, final (parent ++ [name]) ≠ some (.link target)) :
    parent' = parent ∧ name' = name ∧ slash'' = slash' ∧
      Reaches final follow links here names slash parent name slash' := by
  induction h generalizing more parent' name' slash'' with
  | last hinit hname hstay =>
    generalize hnames : _ ++ [_] = names at hseen
    cases hseen with
    | last hinit' hname' _ =>
      obtain ⟨rfl, hlast⟩ := List.append_inj' hnames rfl
      cases hlast
      obtain ⟨rfl, hfinal⟩ := hinit.carry hinit' hcarries
      exact ⟨rfl, rfl, rfl,
        .last hfinal hname fun target htarget => absurd htarget (hend rfl target)⟩
    | link hinit' _ hfound hpass =>
      obtain ⟨rfl, hlast⟩ := List.append_inj' hnames rfl
      cases hlast
      obtain ⟨rfl, -⟩ := hinit.carry hinit' hcarries
      rw [hstay _ (hback _ hfound)] at hpass
      cases hpass
  | link hinit hfirst hfound hpass _ ih =>
    generalize hnames : _ ++ [_] = names at hseen
    cases hseen with
    | last hinit' _ hstay' =>
      obtain ⟨rfl, hlast⟩ := List.append_inj' hnames rfl
      cases hlast
      obtain ⟨rfl, -⟩ := hinit.carry hinit' hcarries
      rw [hstay' _ (hlink _ hfound)] at hpass
      cases hpass
    | link hinit' _ hfound' _ hrest' =>
      obtain ⟨rfl, hlast⟩ := List.append_inj' hnames rfl
      cases hlast
      obtain ⟨rfl, hfinal⟩ := hinit.carry hinit' hcarries
      obtain ⟨hsame, hthere⟩ := hcarries _ _ _ rfl rfl hfound hfound'
      cases hsame
      obtain ⟨rfl, rfl, rfl, hrest⟩ := ih hrest' hlink hback hend
      exact ⟨rfl, rfl, rfl, .link hfinal hfirst hthere hpass hrest⟩

/-- Names that reach a place lead into the directory that is made there. -/
theorem leads (h : Reaches view follow links here names slash parent name slash')
    (hleads : Leads seen more here names stop) (hcarries : Leads.Carries view seen final)
    (hseen : seen (parent ++ [name]) = some .directory)
    (hfinal : final (parent ++ [name]) = some .directory) :
    stop = parent ++ [name] ∧ Leads final more here names stop := by
  induction h generalizing more stop with
  | last hinit hname _ =>
    obtain ⟨used, left, mid, rfl, hmid, hstop⟩ := hleads.split
    obtain ⟨rfl, hkept⟩ := hinit.carry hmid hcarries
    cases hstop with
    | stay hdot => exact absurd hdot hname.1
    | up hdots => exact absurd hdots hname.2.1
    | enter _ _ hrest =>
      cases hrest
      exact ⟨rfl, hkept.append (.enter hname hfinal .done)⟩
    | follow _ hfound => rw [hseen] at hfound; cases hfound
  | link hinit hfirst hfound _ _ ih =>
    obtain ⟨used, left, mid, rfl, hmid, hstop⟩ := hleads.split
    obtain ⟨rfl, hkept⟩ := hinit.carry hmid hcarries
    cases hstop with
    | stay hdot => exact absurd hdot hfirst.1
    | up hdots => exact absurd hdots hfirst.2.1
    | enter _ hother => cases (hcarries _ _ _ rfl rfl hfound hother).1
    | follow _ hother hrest =>
      obtain ⟨hsame, hthere⟩ := hcarries _ _ _ rfl rfl hfound hother
      cases hsame
      rw [List.append_nil] at hrest
      obtain ⟨rfl, hrest⟩ := ih hrest hseen hfinal
      exact ⟨rfl, hkept.append (.follow hfirst hthere (by rwa [List.append_nil]))⟩

end Reaches

/-! ### Paths -/

/-- What the system takes for a path. -/
def Path.IsLegal (p : Path) : Prop :=
  p.text.toList.any (· = Char.ofNat 0) = false ∧ p.text.isEmpty = false ∧
    p.text.utf8ByteSize < Disk.pathLimit

namespace Disk

variable {d : Disk} {follow slash : Bool} {p : Path} {here parent : Place} {name : String}
  {found : Option Entry} {location : Location}

/-- Where a path is followed from. -/
def Starts (d : Disk) (p : Path) (here : Place) : Prop :=
  if p.isAbsolute then here = [] else Leads d.mark? linkLimit [] d.workingDirectory here

theorem locateBy_eq (hlegal : p.IsLegal) :
    d.locateBy follow p =
      (if p.isAbsolute then .ok d.top
        else Spot.walk d.top linkLimit d.top d.workingDirectory).bind fun start =>
          d.locateFrom follow linkLimit start p.steps p.endsInSlash := by
  obtain ⟨hnul, hempty, hshort⟩ := hlegal
  rw [locateBy, hnul, hempty, if_neg Bool.false_ne_true, if_neg Bool.false_ne_true,
    if_neg (Nat.not_le.mpr hshort)]
  cases p.isAbsolute <;> rfl

theorem isLegal_of_locateBy (h : d.locateBy follow p = .ok location) : p.IsLegal := by
  rw [locateBy] at h
  split at h
  · cases h
  rename_i hnul
  split at h
  · cases h
  rename_i hempty
  split at h
  · cases h
  rename_i hlong
  exact ⟨eq_false_of_ne_true hnul, eq_false_of_ne_true hempty, Nat.lt_of_not_le hlong⟩

/-- Links at the end of a path do not matter for where it starts. -/
theorem exists_start (h : d.locateBy follow p = .ok location) :
    ∃ start, start.Within d.root ∧ d.Starts p start.place ∧
      ∀ follow, d.locateBy follow p =
        d.locateFrom follow linkLimit start p.steps p.endsInSlash := by
  have hlegal := isLegal_of_locateBy h
  rw [locateBy_eq hlegal] at h
  cases habsolute : p.isAbsolute with
  | true =>
    refine ⟨d.top, .top, by rw [Starts, habsolute]; rfl, fun follow => ?_⟩
    rw [locateBy_eq hlegal, habsolute]
    rfl
  | false =>
    cases hwalk : Spot.walk d.top linkLimit d.top d.workingDirectory with
    | error e =>
      rw [habsolute, if_neg Bool.false_ne_true, hwalk] at h
      cases h
    | ok start =>
      obtain ⟨hstart, hleads⟩ := Spot.leads_of_walk .top hwalk
      refine ⟨start, hstart, by rw [Starts, habsolute]; exact hleads, fun follow => ?_⟩
      rw [locateBy_eq hlegal, habsolute, if_neg Bool.false_ne_true, hwalk]
      rfl

theorem exists_start_of_starts (hlegal : p.IsLegal) (hstarts : d.Starts p here) :
    ∃ start, start.Within d.root ∧ start.place = here ∧
      ∀ follow, d.locateBy follow p =
        d.locateFrom follow linkLimit start p.steps p.endsInSlash := by
  rw [Starts] at hstarts
  split at hstarts
  · rename_i habsolute
    refine ⟨d.top, .top, hstarts.symm, fun follow => ?_⟩
    rw [locateBy_eq hlegal, if_pos habsolute]
    rfl
  · rename_i habsolute
    obtain ⟨start, hwalk, hstart, hplace⟩ := Spot.walk_of_leads (s := d.top) hstarts .top rfl
    refine ⟨start, hstart, hplace, fun follow => ?_⟩
    rw [locateBy_eq hlegal, if_neg habsolute, hwalk]
    rfl

theorem reaches_of_locateBy (h : d.locateBy follow p = .ok (.name parent name found slash)) :
    ∃ here, d.Starts p here ∧
      Reaches d.mark? follow linkLimit here p.steps p.endsInSlash parent name slash ∧
      found = d.root.find? (parent ++ [name]) := by
  obtain ⟨start, hwithin, hstarts, hlocate⟩ := exists_start h
  rw [hlocate] at h
  exact ⟨start.place, hstarts, reaches_of_locateFrom hwithin h⟩

theorem locateBy_of_reaches (hlegal : p.IsLegal) (hstarts : d.Starts p here)
    (h : Reaches d.mark? follow linkLimit here p.steps p.endsInSlash parent name slash) :
    d.locateBy follow p = .ok (.name parent name (d.root.find? (parent ++ [name])) slash) := by
  obtain ⟨start, hwithin, hplace, hlocate⟩ := exists_start_of_starts hlegal hstarts
  rw [hlocate]
  exact locateFrom_of_reaches h hwithin hplace

/-- Two disks on which a path starts let it start at the same place, and so does a third one on
which nothing that both pass is lost. -/
theorem Starts.carry {v d' : Disk} {there : Place} (hv : v.Starts p here) (hd : d.Starts p there)
    (hcarries : Leads.Carries v.mark? d.mark? d'.mark?)
    (hworking : d.workingDirectory = v.workingDirectory)
    (hworking' : d'.workingDirectory = v.workingDirectory) : there = here ∧ d'.Starts p here := by
  rw [Starts] at hv hd ⊢
  split
  · rename_i habsolute
    rw [if_pos habsolute] at hv hd
    exact ⟨hd.trans hv.symm, hv⟩
  · rename_i habsolute
    rw [if_neg habsolute] at hv hd
    rw [hworking] at hd
    obtain ⟨rfl, hfinal⟩ := hv.carry hd hcarries
    exact ⟨rfl, by rw [hworking']; exact hfinal⟩

/-- A path leads on one disk where it leads on another one that has the same links where one of the
two ways ends, and so it does on a third disk on which nothing that both pass is lost. -/
theorem locateBy_carry {v d' : Disk} {parent' : Place} {name' : String}
    {found' : Option Entry} {slash' : Bool}
    (hv : v.locate p = .ok (.name parent name found slash))
    (hd : d.locate p = .ok (.name parent' name' found' slash'))
    (hcarries : Leads.Carries v.mark? d.mark? d'.mark?)
    (hlink : ∀ target, v.mark? (parent' ++ [name']) = some (.link target) →
      d.mark? (parent' ++ [name']) = some (.link target))
    (hback : ∀ target, d.mark? (parent ++ [name]) = some (.link target) →
      v.mark? (parent ++ [name]) = some (.link target))
    (hend : parent' ++ [name'] = parent ++ [name] →
      ∀ target, d'.mark? (parent ++ [name]) ≠ some (.link target))
    (hworking : d.workingDirectory = v.workingDirectory)
    (hworking' : d'.workingDirectory = v.workingDirectory) (follow : Bool) :
    parent' = parent ∧ name' = name ∧ slash' = slash ∧ d'.locateBy follow p =
      .ok (.name parent name (d'.root.find? (parent ++ [name])) slash) := by
  have hlegal := isLegal_of_locateBy hv
  obtain ⟨here, hhere, hv, -⟩ := reaches_of_locateBy hv
  obtain ⟨there, hthere, hd, -⟩ := reaches_of_locateBy hd
  obtain ⟨rfl, hstarts⟩ := hhere.carry hthere hcarries hworking hworking'
  obtain ⟨rfl, rfl, rfl, hfinal⟩ := hv.carry hd hcarries hlink hback hend
  refine ⟨rfl, rfl, rfl, locateBy_of_reaches hlegal hstarts ?_⟩
  cases follow with
  | false => exact hfinal
  | true => exact hfinal.following (hend rfl)

/-! ### Directories -/

/-- Names lead from a directory to a directory. -/
theorem mark?_of_leads {links : Nat} {names : List String} {stop : Place}
    (h : Leads d.mark? links here names stop) (hhere : d.mark? here = some .directory) :
    d.mark? stop = some .directory := by
  induction h with
  | done => exact hhere
  | stay _ _ ih => exact ih hhere
  | @up _ place _ _ _ _ _ ih =>
    refine ih ?_
    rcases List.eq_nil_or_concat place with rfl | ⟨init, last, rfl⟩
    · exact mark?_nil
    · rw [List.concat_eq_append, List.dropLast_concat]
      rw [List.concat_eq_append] at hhere
      exact mark?_eq_directory_of_append (by rw [hhere]; exact Option.some_ne_none _)
        (List.cons_ne_nil last [])
  | enter _ hfound _ ih => exact ih hfound
  | @follow _ place _ _ target _ _ _ _ ih =>
    refine ih ?_
    split
    · exact mark?_nil
    · exact hhere

theorem mark?_of_starts (h : d.Starts p here) : d.mark? here = some .directory := by
  rw [Starts] at h
  split at h
  · rw [h]
    exact mark?_nil
  · exact mark?_of_leads h mark?_nil

theorem mark?_parent_of_reaches {links : Nat} {names : List String} {slash' : Bool}
    (h : Reaches d.mark? follow links here names slash parent name slash')
    (hhere : d.mark? here = some .directory) : d.mark? parent = some .directory := by
  induction h with
  | last hinit => exact mark?_of_leads hinit hhere
  | @link _ _ _ _ _ _ _ _ _ _ target hinit _ _ _ _ ih =>
    refine ih ?_
    split
    · exact mark?_nil
    · exact mark?_of_leads hinit hhere

/-- The directory of a name is there. -/
theorem mark?_parent (h : d.locateBy follow p = .ok (.name parent name found slash)) :
    d.mark? parent = some .directory := by
  obtain ⟨here, hstarts, hreaches, -⟩ := reaches_of_locateBy h
  exact mark?_parent_of_reaches hreaches (mark?_of_starts hstarts)

theorem leads_of_locateFrom {links : Nat} {init : List String} {last : String} {s : Spot}
    (hs : s.Within d.root)
    (h : d.locateFrom follow links s (init ++ [last]) slash = .ok location) :
    ∃ stop, Leads d.mark? linkLimit s.place init stop := by
  by_cases hdots : last = "." ∨ last = ".."
  · rw [locateFrom_dots hdots] at h
    cases hwalk : Spot.walk d.top linkLimit s (init ++ [last]) with
    | error e => rw [hwalk] at h; cases h
    | ok stop =>
      obtain ⟨used, left, mid, hsum, hmid, -⟩ := (Spot.leads_of_walk hs hwalk).2.split
      exact ⟨mid, hmid.mono (by omega)⟩
  · rw [locateFrom_of_name hdots] at h
    cases hwalk : Spot.walk d.top linkLimit s init with
    | error e => rw [hwalk] at h; cases h
    | ok stop => exact ⟨stop.place, (Spot.leads_of_walk hs hwalk).2⟩

/-- Names that reach a name by way of one disk end at a name on another disk, too. -/
theorem exists_name_of_locateFrom {view : Place → Option Mark} {links more : Nat}
    {names : List String} {s : Spot} {slash' : Bool}
    (h : Reaches view follow more here names slash parent name slash') (hs : s.Within d.root)
    (hplace : s.place = here) (hcarries : Leads.Carries view d.mark? d.mark?)
    (hend : ∀ target, d.mark? (parent ++ [name]) ≠ some (.link target))
    (hlocate : d.locateFrom follow links s names slash = .ok location) :
    ∃ parent name found slash, location = .name parent name found slash := by
  induction h generalizing links s location with
  | last hinit hname _ =>
    obtain ⟨mid, hwalk, ⟨rfl, -⟩ | ⟨target, less, hfound, -⟩⟩ :=
      locateFrom_cases (not_or.mpr ⟨hname.1, hname.2.1⟩) hlocate
    · exact ⟨_, _, _, _, rfl⟩
    · obtain ⟨hmid, hleads⟩ := Spot.leads_of_walk hs hwalk
      obtain ⟨hsame, -⟩ := hinit.carry (hplace ▸ hleads) hcarries
      rw [← hmid.find?_append, hsame] at hfound
      exact absurd (mark?_of_find?_root hfound) (hend target)
  | link hinit hfirst hthere _ _ ih =>
    obtain ⟨mid, hwalk, ⟨rfl, -⟩ | ⟨target, less, hfound, -, rfl, hgo⟩⟩ :=
      locateFrom_cases (not_or.mpr ⟨hfirst.1, hfirst.2.1⟩) hlocate
    · exact ⟨_, _, _, _, rfl⟩
    · obtain ⟨hmid, hleads⟩ := Spot.leads_of_walk hs hwalk
      obtain ⟨rfl, -⟩ := hinit.carry (hplace ▸ hleads) hcarries
      have hmark := mark?_of_find?_root ((hmid.find?_append _).trans hfound)
      cases (hcarries _ _ _ rfl rfl hthere hmark).1
      exact ih (hmid.turn _) (Spot.place_turn _) hend hgo

theorem exists_name_of_locateBy {v : Disk}
    (hv : v.locate p = .ok (.name parent name found slash)) (hd : d.locate p = .ok location)
    (hcarries : Leads.Carries v.mark? d.mark? d.mark?)
    (hend : ∀ target, d.mark? (parent ++ [name]) ≠ some (.link target))
    (hworking : d.workingDirectory = v.workingDirectory) :
    ∃ parent name found slash, location = .name parent name found slash := by
  obtain ⟨here, hhere, hreaches, -⟩ := reaches_of_locateBy hv
  obtain ⟨start, hwithin, hstarts, hlocate⟩ := exists_start hd
  obtain ⟨hplace, -⟩ := hhere.carry hstarts hcarries hworking hworking
  exact exists_name_of_locateFrom hreaches hwithin hplace hcarries hend
    ((hlocate false).symm.trans hd)

/-- Where something is found, the same or a link is found when links are told apart. -/
theorem locateFrom_false {links : Nat} {names : List String} {s : Spot}
    (h : d.locateFrom true links s names slash = .ok location) :
    ∃ other, d.locateFrom false links s names slash = .ok other ∧
      (other = location ∨
        ∃ parent name target, other = .name parent name (some (.link target)) false) := by
  rcases List.eq_nil_or_concat names with rfl | ⟨init, last, rfl⟩
  · rw [locateFrom_nil] at h ⊢
    exact ⟨_, h, Or.inl rfl⟩
  rw [List.concat_eq_append] at h ⊢
  by_cases hdots : last = "." ∨ last = ".."
  · rw [locateFrom_dots hdots] at h ⊢
    exact ⟨_, h, Or.inl rfl⟩
  · have hname := isName_of_locateFrom h hdots
    obtain ⟨mid, hwalk, ⟨rfl, hend⟩ | ⟨target, less, hfound, -, rfl, hrest⟩⟩ :=
      locateFrom_cases hdots h
    · have hplain : ∀ target, mid.entries.lookup last = some (.link target) →
          (false || slash) = false := fun target hlink => nomatch hend target hlink
      exact ⟨_, locateFrom_of_end hname hwalk hplain, Or.inl rfl⟩
    · cases slash with
      | true => exact ⟨_, (locateFrom_of_link hname hwalk hfound rfl).trans hrest, Or.inl rfl⟩
      | false =>
        refine ⟨_, locateFrom_of_end hname hwalk fun _ _ => rfl,
          Or.inr ⟨mid.place, last, target, ?_⟩⟩
        rw [hfound]

theorem locate_of_reach (h : d.reach p = .ok location) :
    ∃ other, d.locate p = .ok other ∧ (other = location ∨
      ∃ parent name target, other = .name parent name (some (.link target)) false) := by
  obtain ⟨start, -, -, hlocate⟩ := exists_start h
  obtain ⟨other, hother, hsame⟩ := locateFrom_false ((hlocate true).symm.trans h)
  exact ⟨other, (hlocate false).trans hother, hsame⟩

end Disk

end Montage
