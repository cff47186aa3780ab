import Montage.Proofs.Disk.Entries

/-! Where names lead, told from what is marked at each place they pass. -/
namespace Montage

/-- A file is the end of a way; a directory or a link is passed. -/
def Mark.isFile : Mark → Bool
  | file _ => true
  | _ => false

/-- What can stand for something in a directory. -/
def IsName (name : String) : Prop :=
  name ≠ "." ∧ name ≠ ".." ∧ name.utf8ByteSize ≤ Spot.nameLimit

/-- Names lead from one place to another, past at most so many links. -/
inductive Leads (view : Place → Option Mark) : Nat → Place → List String → Place → Prop
  | done {links : Nat} {here : Place} : Leads view links here [] here
  | stay {links : Nat} {here stop : Place} {name : String} {rest : List String}
      (hdot : name = ".") (hrest : Leads view links here rest stop) :
      Leads view links here (name :: rest) stop
  | up {links : Nat} {here stop : Place} {name : String} {rest : List String}
      (hdots : name = "..") (hrest : Leads view links here.dropLast rest stop) :
      Leads view links here (name :: rest) stop
  | enter {links : Nat} {here stop : Place} {name : String} {rest : List String}
      (hname : IsName name) (hfound : view (here ++ [name]) = some .directory)
      (hrest : Leads view links (here ++ [name]) rest stop) :
      Leads view links here (name :: rest) stop
  | follow {links : Nat} {here stop : Place} {name : String} {target : Path} {rest : List String}
      (hname : IsName name) (hfound : view (here ++ [name]) = some (.link target))
      (hrest : Leads view links (if target.isAbsolute then [] else here) (target.steps ++ rest)
        stop) :
      Leads view (links + 1) here (name :: rest) stop

namespace Leads

variable {view seen final : Place → Option Mark} {links more : Nat} {here stop stop' : Place}
  {names rest : List String}

theorem mono (h : Leads view links here names stop) (hmore : links ≤ more) :
    Leads view more here names stop := by
  induction h generalizing more with
  | done => exact .done
  | stay hdot _ ih => exact .stay hdot (ih hmore)
  | up hdots _ ih => exact .up hdots (ih hmore)
  | enter hname hfound _ ih => exact .enter hname hfound (ih hmore)
  | follow hname hfound _ ih =>
    cases more with
    | zero => cases hmore
    | succ more => exact .follow hname hfound (ih (Nat.le_of_succ_le_succ hmore))

theorem append {used left : Nat} {mid : Place} (h : Leads view used here names mid)
    (hrest : Leads view left mid rest stop) :
    Leads view (used + left) here (names ++ rest) stop := by
  induction h with
  | done => exact hrest.mono (Nat.le_add_left _ _)
  | stay hdot _ ih => exact .stay hdot (ih hrest)
  | up hdots _ ih => exact .up hdots (ih hrest)
  | enter hname hfound _ ih => exact .enter hname hfound (ih hrest)
  | follow hname hfound _ ih =>
    rw [Nat.add_right_comm]
    exact .follow hname hfound (List.append_assoc _ _ _ ▸ ih hrest)

/-- Whatever leads somewhere leads to a directory on the way first. -/
theorem split (h : Leads view links here (names ++ rest) stop) :
    ∃ used left mid, used + left = links ∧ Leads view used here names mid ∧
      Leads view left mid rest stop := by
  generalize hall : names ++ rest = all at h
  induction h generalizing names with
  | done =>
    obtain ⟨rfl, rfl⟩ := List.append_eq_nil_iff.mp hall
    exact ⟨0, _, _, Nat.zero_add _, .done, .done⟩
  | stay hdot hrest ih =>
    cases names with
    | nil =>
      obtain rfl : rest = _ := hall
      exact ⟨0, _, _, Nat.zero_add _, .done, .stay hdot hrest⟩
    | cons first names =>
      obtain ⟨rfl, htail⟩ := List.cons.inj hall
      obtain ⟨used, left, mid, hsum, hmid, hstop⟩ := ih htail
      exact ⟨used, left, mid, hsum, .stay hdot hmid, hstop⟩
  | up hdots hrest ih =>
    cases names with
    | nil =>
      obtain rfl : rest = _ := hall
      exact ⟨0, _, _, Nat.zero_add _, .done, .up hdots hrest⟩
    | cons first names =>
      obtain ⟨rfl, htail⟩ := List.cons.inj hall
      obtain ⟨used, left, mid, hsum, hmid, hstop⟩ := ih htail
      exact ⟨used, left, mid, hsum, .up hdots hmid, hstop⟩
  | enter hname hfound hrest ih =>
    cases names with
    | nil =>
      obtain rfl : rest = _ := hall
      exact ⟨0, _, _, Nat.zero_add _, .done, .enter hname hfound hrest⟩
    | cons first names =>
      obtain ⟨rfl, htail⟩ := List.cons.inj hall
      obtain ⟨used, left, mid, hsum, hmid, hstop⟩ := ih htail
      exact ⟨used, left, mid, hsum, .enter hname hfound hmid, hstop⟩
  | follow hname hfound hrest ih =>
    cases names with
    | nil =>
      obtain rfl : rest = _ := hall
      exact ⟨0, _, _, Nat.zero_add _, .done, .follow hname hfound hrest⟩
    | cons first names =>
      obtain ⟨rfl, htail⟩ := List.cons.inj hall
      obtain ⟨used, left, mid, hsum, hmid, hstop⟩ :=
        ih ((List.append_assoc _ _ _).trans (congrArg _ htail))
      exact ⟨used + 1, left, mid, by omega, .follow hname hfound hmid, hstop⟩

/-- Dots lead nowhere. -/
theorem filter_dots (h : Leads view links here names stop) :
    Leads view links here (names.filter (· ≠ ".")) stop := by
  induction names generalizing links here with
  | nil => exact h
  | cons name rest ih =>
    obtain ⟨used, left, mid, rfl, hname, hrest⟩ :=
      split (show Leads view links here ([name] ++ rest) stop from h)
    by_cases hdot : name = "."
    · rw [List.filter_cons_of_neg (by simpa using hdot)]
      cases hname with
      | stay _ hdone =>
        cases hdone
        exact (ih hrest).mono (Nat.le_add_left _ _)
      | up hdots => exact absurd (hdot.symm.trans hdots) (by decide)
      | enter hname | follow hname => exact absurd hdot hname.1
    · rw [List.filter_cons_of_pos (by simpa using hdot)]
      exact hname.append (ih hrest)

/-- Where two views both let something pass, they agree, and a third one agrees with them. -/
def Carries (view seen final : Place → Option Mark) : Prop :=
  ∀ place mark other, mark.isFile = false → other.isFile = false → view place = some mark →
    seen place = some other → other = mark ∧ final place = some mark

theorem carry (h : Leads view links here names stop) (hseen : Leads seen more here names stop')
    (hcarries : Carries view seen final) : stop' = stop ∧ Leads final more here names stop := by
  induction h generalizing more with
  | done =>
    cases hseen
    exact ⟨rfl, .done⟩
  | stay hdot _ ih =>
    cases hseen with
    | stay _ hrest =>
      obtain ⟨rfl, hfinal⟩ := ih hrest
      exact ⟨rfl, .stay hdot hfinal⟩
    | up hdots => exact absurd (hdot.symm.trans hdots) (by decide)
    | enter hname | follow hname => exact absurd hdot hname.1
  | up hdots _ ih =>
    cases hseen with
    | up _ hrest =>
      obtain ⟨rfl, hfinal⟩ := ih hrest
      exact ⟨rfl, .up hdots hfinal⟩
    | stay hdot => exact absurd (hdot.symm.trans hdots) (by decide)
    | enter hname | follow hname => exact absurd hdots hname.2.1
  | enter hname hfound _ ih =>
    cases hseen with
    | stay hdot => exact absurd hdot hname.1
    | up hdots => exact absurd hdots hname.2.1
    | enter _ hother hrest =>
      obtain ⟨rfl, hfinal⟩ := ih hrest
      exact ⟨rfl, .enter hname (hcarries _ _ _ rfl rfl hfound hother).2 hfinal⟩
    | follow _ hother => cases (hcarries _ _ _ rfl rfl hfound hother).1
  | follow hname hfound _ ih =>
    cases hseen with
    | stay hdot => exact absurd hdot hname.1
    | up hdots => exact absurd hdots hname.2.1
    | enter _ hother => cases (hcarries _ _ _ rfl rfl hfound hother).1
    | follow _ hother hrest =>
      obtain ⟨hsame, hthere⟩ := hcarries _ _ _ rfl rfl hfound hother
      cases hsame
      obtain ⟨rfl, hfinal⟩ := ih hrest
      exact ⟨rfl, .follow hname hthere hfinal⟩

end Leads

/-! ### Walks -/

namespace Spot

variable {root : Entries} {s s' : Spot} {name : String} {inner : Entries}

/-- A spot is reached from the root. -/
inductive Within (root : Entries) : Spot → Prop
  | top : Within root ⟨root, []⟩
  | child {s : Spot} {name : String} {inner : Entries} (hs : Within root s)
      (hfound : s.entries.lookup name = some (.directory inner)) :
      Within root ⟨inner, (name, s.entries) :: s.above⟩

theorem place_below (s : Spot) (name : String) (inner : Entries) :
    place ⟨inner, (name, s.entries) :: s.above⟩ = s.place ++ [name] := by
  simp [place]

theorem place_up (s : Spot) : s.up.place = s.place.dropLast := by
  obtain ⟨entries, above⟩ := s
  cases above with
  | nil => rfl
  | cons first above => simp [up, place]

namespace Within

theorem up (hs : s.Within root) : s.up.Within root := by
  cases hs with
  | top => exact .top
  | child hs _ => exact hs

theorem find? (hs : s.Within root) : root.find? s.place = some (.directory s.entries) := by
  induction hs with
  | top => exact Entries.find?_nil
  | child hs hfound ih => rw [place_below, Entries.find?_append_singleton, ih, ← hfound]; rfl

theorem find?_append (hs : s.Within root) (name : String) :
    root.find? (s.place ++ [name]) = s.entries.lookup name := by
  rw [Entries.find?_append_singleton, hs.find?]
  rfl

end Within

theorem lookup_of_isName (hname : IsName name) : s.lookup name = .ok (s.entries.lookup name) := by
  rw [lookup, if_neg (Nat.not_lt.mpr hname.2.2)]

variable {top : Spot} {links : Nat} {rest : List String}

theorem walk_nil : walk top links s [] = .ok s := by
  cases links <;> rfl

theorem walk_stay : walk top links s ("." :: rest) = walk top links s rest := by
  cases links <;> simp [walk, walkUntil]

theorem walk_up : walk top links s (".." :: rest) = walk top links s.up rest := by
  cases links <;> simp [walk, walkUntil]

theorem walk_enter (hname : IsName name)
    (hfound : s.entries.lookup name = some (.directory inner)) :
    walk top links s (name :: rest) =
      walk top links ⟨inner, (name, s.entries) :: s.above⟩ rest := by
  cases links <;> simp [walk, walkUntil, hname.1, hname.2.1, lookup_of_isName hname, hfound]

theorem walk_follow {target : Path} (hname : IsName name)
    (hfound : s.entries.lookup name = some (.link target)) :
    walk top (links + 1) s (name :: rest) =
      walk top links (if target.isAbsolute then top else s) (target.steps ++ rest) := by
  rw [walk, walkUntil, if_neg hname.1, if_neg hname.2.1, lookup_of_isName hname, hfound]

/-- The ways a walk can go on. -/
theorem walk_cons (h : walk top links s (name :: rest) = .ok s') :
    (name = "." ∧ walk top links s rest = .ok s') ∨
    (name = ".." ∧ walk top links s.up rest = .ok s') ∨
    (IsName name ∧ ∃ inner, s.entries.lookup name = some (.directory inner) ∧
      walk top links ⟨inner, (name, s.entries) :: s.above⟩ rest = .ok s') ∨
    (IsName name ∧ ∃ target less, s.entries.lookup name = some (.link target) ∧ links = less + 1 ∧
      walk top less (if target.isAbsolute then top else s) (target.steps ++ rest) = .ok s') := by
  by_cases hdot : name = "."
  · subst hdot
    exact Or.inl ⟨rfl, walk_stay ▸ h⟩
  by_cases hdots : name = ".."
  · subst hdots
    exact Or.inr (Or.inl ⟨rfl, walk_up ▸ h⟩)
  refine Or.inr (Or.inr ?_)
  have hshort : name.utf8ByteSize ≤ nameLimit := by
    by_contra hlong
    cases links <;>
      simp [walk, walkUntil, hdot, hdots, lookup, Nat.lt_of_not_le hlong] at h
  have hname : IsName name := ⟨hdot, hdots, hshort⟩
  cases hfound : s.entries.lookup name with
  | none =>
    cases links <;>
      simp [walk, walkUntil, hdot, hdots, lookup_of_isName hname, hfound] at h
  | some found =>
    cases found with
    | file id =>
      cases links <;>
        simp [walk, walkUntil, hdot, hdots, lookup_of_isName hname, hfound] at h
    | directory inner => exact Or.inl ⟨hname, inner, rfl, walk_enter hname hfound ▸ h⟩
    | link target =>
      cases links with
      | zero => simp [walk, walkUntil, hdot, hdots, lookup_of_isName hname, hfound] at h
      | succ less => exact Or.inr ⟨hname, target, less, rfl, rfl, walk_follow hname hfound ▸ h⟩

variable {d : Disk} {names : List String} {here stop : Place}

/-- Where a link is followed from. -/
theorem Within.turn (hs : s.Within d.root) (target : Path) :
    (if target.isAbsolute then d.top else s).Within d.root := by
  split
  · exact .top
  · exact hs

theorem place_turn (target : Path) :
    (if target.isAbsolute then d.top else s).place =
      if target.isAbsolute then [] else s.place := by
  split <;> rfl

theorem leads_of_walk (hs : s.Within d.root) (h : walk d.top links s names = .ok s') :
    s'.Within d.root ∧ Leads d.mark? links s.place names s'.place := by
  induction links using Nat.strongRecOn generalizing s names with
  | ind links ihlinks =>
    induction names generalizing s with
    | nil =>
      rw [walk_nil] at h
      cases h
      exact ⟨hs, .done⟩
    | cons name rest ih =>
      rcases walk_cons h with ⟨hdot, hgo⟩ | ⟨hdots, hgo⟩ | ⟨hname, inner, hfound, hgo⟩ |
        ⟨hname, target, less, hfound, rfl, hgo⟩
      · exact ⟨(ih hs hgo).1, .stay hdot (ih hs hgo).2⟩
      · exact ⟨(ih hs.up hgo).1, .up hdots (place_up s ▸ (ih hs.up hgo).2)⟩
      · obtain ⟨hstop, hrest⟩ := ih (hs.child hfound) hgo
        rw [place_below] at hrest
        exact ⟨hstop, .enter hname
          (Disk.mark?_of_find?_root ((hs.find?_append name).trans hfound)) hrest⟩
      · obtain ⟨hstop, hrest⟩ := ihlinks less (Nat.lt_succ_self less) (hs.turn target) hgo
        rw [place_turn] at hrest
        exact ⟨hstop, .follow hname
          (Disk.mark?_of_find?_root ((hs.find?_append name).trans hfound)) hrest⟩

theorem walk_of_leads (h : Leads d.mark? links here names stop) (hs : s.Within d.root)
    (hplace : s.place = here) :
    ∃ s', walk d.top links s names = .ok s' ∧ s'.Within d.root ∧ s'.place = stop := by
  induction h generalizing s with
  | done => exact ⟨s, walk_nil, hs, hplace⟩
  | stay hdot _ ih =>
    rw [hdot, walk_stay]
    exact ih hs hplace
  | up hdots _ ih =>
    rw [hdots, walk_up]
    exact ih hs.up (by rw [place_up, hplace])
  | enter hname hfound _ ih =>
    obtain ⟨inner, hinner⟩ := Disk.find?_root_of_mark?_directory hfound
    rw [← hplace, hs.find?_append] at hinner
    rw [walk_enter hname hinner]
    exact ih (hs.child hinner) (by rw [place_below, hplace])
  | follow hname hfound _ ih =>
    have hlink := Disk.find?_root_of_mark?_link hfound
    rw [← hplace, hs.find?_append] at hlink
    rw [walk_follow hname hlink]
    exact ih (hs.turn _) (by rw [place_turn, hplace])

end Spot

end Montage
