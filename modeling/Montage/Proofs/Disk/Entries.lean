import Mathlib.Tactic.ByContra
import Montage.Disk.Change

/-! What is at a place, without what is below it, and what becomes of it when an entry is put
somewhere else. -/
namespace Montage

/-- What a name leads to, without what is in it. -/
inductive Mark
  | file (id : Nat)
  | directory
  | link (target : Path)
  deriving DecidableEq

namespace Entry

def mark : Entry → Mark
  | .file id => .file id
  | .directory _ => .directory
  | .link target => .link target

/-- What is at a place below an entry. -/
def find? : Entry → Place → Option Entry
  | .directory entries, place => Entries.find? entries place
  | entry, place => if place = [] then some entry else none

@[simp] theorem find?_nil (entry : Entry) : entry.find? [] = some entry := by
  cases entry <;> simp [find?, Entries.find?]

@[simp] theorem find?_directory (entries : Entries) (place : Place) :
    (directory entries).find? place = Entries.find? entries place := by
  rw [find?]

theorem mark_eq_directory {entry : Entry} (h : entry.mark = .directory) :
    ∃ entries, entry = .directory entries := by
  cases entry with
  | directory entries => exact ⟨entries, rfl⟩
  | file | link => cases h

theorem mark_eq_file {entry : Entry} {id : Nat} (h : entry.mark = .file id) :
    entry = .file id := by
  cases entry with
  | file other => exact congrArg Entry.file (Mark.file.inj h)
  | directory | link => cases h

theorem mark_eq_link {entry : Entry} {target : Path} (h : entry.mark = .link target) :
    entry = .link target := by
  cases entry with
  | link other => exact congrArg Entry.link (Mark.link.inj h)
  | directory | file => cases h

end Entry

namespace Entries

variable {entries : Entries} {entry : Option Entry} {name : String} {place q : Place}

theorem lookup_filter_ne (other : String) :
    (entries.filter (·.1 ≠ name)).lookup other =
      if other = name then none else entries.lookup other := by
  induction entries with
  | nil => simp
  | cons first rest ih =>
    obtain ⟨key, found⟩ := first
    by_cases hkey : key = name
    · subst hkey
      rw [List.filter_cons_of_neg (by simp), ih, List.lookup_cons]
      by_cases hother : other = key
      · simp [hother]
      · simp [hother, beq_false_of_ne hother]
    · rw [List.filter_cons_of_pos (by simpa using hkey), List.lookup_cons, List.lookup_cons, ih]
      by_cases hother : other = key
      · simp [hother, hkey]
      · rw [beq_false_of_ne hother]

theorem lookup_put (other : String) :
    (entries.put name entry).lookup other =
      if other = name then entry else entries.lookup other := by
  rw [put]
  cases entry with
  | none => exact lookup_filter_ne other
  | some entry =>
    change ((name, entry) :: entries.filter (·.1 ≠ name)).lookup other = _
    rw [List.lookup_cons, lookup_filter_ne]
    by_cases hother : other = name
    · simp [hother]
    · simp [hother, beq_false_of_ne hother]

@[simp] theorem find?_nil : entries.find? [] = some (.directory entries) := by
  rw [find?]

theorem find?_cons (name : String) (rest : Place) :
    entries.find? (name :: rest) = (entries.lookup name).bind (·.find? rest) := by
  rw [find?]
  cases hfound : entries.lookup name with
  | none => simp
  | some found => cases found <;> simp [Entry.find?]

theorem find?_append (place q : Place) :
    entries.find? (place ++ q) = (entries.find? place).bind (·.find? q) := by
  induction place generalizing entries with
  | nil => simp
  | cons name rest ih =>
    rw [List.cons_append, find?_cons, find?_cons]
    cases entries.lookup name with
    | none => rfl
    | some found =>
      cases found with
      | directory inner => simpa using ih
      | file | link =>
        cases rest with
        | nil => rfl
        | cons => rfl

theorem find?_append_singleton (place : Place) (name : String) :
    entries.find? (place ++ [name]) = (entries.find? place).bind fun
      | .directory inner => List.lookup name inner
      | _ => none := by
  rw [find?_append]
  cases entries.find? place with
  | none => rfl
  | some found =>
    cases found with
    | directory inner =>
      change Entry.find? (.directory inner) [name] = List.lookup name inner
      rw [Entry.find?_directory, find?_cons]
      cases List.lookup name inner <;> simp
    | file | link => rfl

/-- An entry changes nothing where its place does not lead. -/
theorem mark_find?_set_of_not_isPrefix (h : ¬ place <+: q) :
    ((entries.set place entry).find? q).map Entry.mark = (entries.find? q).map Entry.mark := by
  induction place generalizing entries q with
  | nil => exact absurd List.nil_prefix h
  | cons name rest ih =>
    cases q with
    | nil => simp [Entry.mark]
    | cons first q =>
      have hinside : first = name → ¬ rest <+: q := fun hname hrest =>
        h (List.cons_prefix_cons.mpr ⟨hname.symm, hrest⟩)
      rw [find?_cons, find?_cons]
      cases rest with
      | nil =>
        rw [set, lookup_put, if_neg fun hname => hinside hname List.nil_prefix]
      | cons second rest =>
        rw [set]
        · split
          · rename_i inner hfound
            rw [lookup_put]
            split
            · rename_i hname
              rw [hname, hfound]
              simpa using @ih inner q (hinside hname)
            · rfl
          · rfl
        · exact List.cons_ne_nil _ _

/-- At its place, in a directory that is there, an entry is all there is. -/
theorem find?_set_append {parent : Place} (name : String) (below : Place)
    (h : (entries.find? parent).map Entry.mark = some .directory) :
    (entries.set (parent ++ [name]) entry).find? (parent ++ [name] ++ below) =
      entry.bind (·.find? below) := by
  induction parent generalizing entries with
  | nil =>
    change (entries.set [name] entry).find? (name :: below) = _
    rw [find?_cons, set, lookup_put, if_pos rfl]
  | cons first rest ih =>
    rw [find?_cons] at h
    obtain ⟨found, hlookup, hfound⟩ : ∃ found, entries.lookup first = some found ∧
        (found.find? rest).map Entry.mark = some .directory := by
      cases hlookup : entries.lookup first with
      | none => simp [hlookup] at h
      | some found => exact ⟨found, rfl, by simpa [hlookup] using h⟩
    obtain ⟨inner, rfl⟩ : ∃ inner, found = .directory inner := by
      cases found with
      | directory inner => exact ⟨inner, rfl⟩
      | file | link =>
        cases rest with
        | nil => simp [Entry.mark] at hfound
        | cons => simp [Entry.find?] at hfound
    have hset : entries.set (first :: rest ++ [name]) entry =
        entries.put first (some (.directory (Entries.set inner (rest ++ [name]) entry))) := by
      rw [List.cons_append, set, hlookup]
      simp
    rw [hset, List.cons_append, List.cons_append, find?_cons, lookup_put, if_pos rfl]
    exact ih (by simpa using hfound)

/-- Nothing is left at a place that is emptied, nor below it. -/
theorem find?_set_none (hplace : place ≠ []) (below : Place) :
    (entries.set place none).find? (place ++ below) = none := by
  induction place generalizing entries with
  | nil => exact absurd rfl hplace
  | cons name rest ih =>
    rw [List.cons_append, find?_cons]
    cases rest with
    | nil =>
      rw [set, lookup_put, if_pos rfl]
      rfl
    | cons second rest =>
      rw [set]
      · split
        · rename_i inner hfound
          rw [lookup_put, if_pos rfl]
          simpa using @ih inner (List.cons_ne_nil second rest)
        · rename_i hfound
          match hlookup : entries.lookup name with
          | none => rfl
          | some (.file _) | some (.link _) => rfl
          | some (.directory inner) => exact absurd hlookup (hfound inner)
      · exact List.cons_ne_nil _ _

end Entries

namespace Disk

variable {d : Disk} {entry : Option Entry} {parent place q : Place} {name : String}

def mark? (d : Disk) (place : Place) : Option Mark :=
  (d.root.find? place).map Entry.mark

/-- What can be seen of what is marked. -/
def nodeOf (d : Disk) : Mark → Node
  | .file id => .file (d.content id)
  | .directory => .directory
  | .link target => .link target

theorem node_eq (entry : Entry) : d.node entry = d.nodeOf entry.mark := by
  cases entry <;> rfl

theorem find?_eq (place : Place) : d.find? place = (d.mark? place).map d.nodeOf := by
  rw [find?, mark?, Option.map_map]
  exact congrArg (Option.map · _) (funext node_eq)

/-- Every file has its content. -/
def Sound (d : Disk) : Prop :=
  ∀ place id, d.mark? place = some (.file id) → id < d.files.length

@[simp] theorem mark?_nil : d.mark? [] = some .directory := by
  simp [mark?, Entry.mark]

theorem find?_root_of_mark?_file {id : Nat} (h : d.mark? place = some (.file id)) :
    d.root.find? place = some (.file id) := by
  obtain ⟨found, hfound, hmark⟩ := Option.map_eq_some_iff.mp h
  rw [hfound, Entry.mark_eq_file hmark]

theorem find?_root_of_mark?_directory (h : d.mark? place = some .directory) :
    ∃ entries, d.root.find? place = some (.directory entries) := by
  obtain ⟨found, hfound, hmark⟩ := Option.map_eq_some_iff.mp h
  obtain ⟨entries, rfl⟩ := Entry.mark_eq_directory hmark
  exact ⟨entries, hfound⟩

theorem find?_root_of_mark?_link {target : Path} (h : d.mark? place = some (.link target)) :
    d.root.find? place = some (.link target) := by
  obtain ⟨found, hfound, hmark⟩ := Option.map_eq_some_iff.mp h
  rw [hfound, Entry.mark_eq_link hmark]

theorem find?_root_of_mark?_none (h : d.mark? place = none) : d.root.find? place = none :=
  Option.map_eq_none_iff.mp h

theorem mark?_of_find?_root {found : Entry} (h : d.root.find? place = some found) :
    d.mark? place = some found.mark := by
  rw [mark?, h]
  rfl

/-- Only directories have anything below them. -/
theorem mark?_append_eq_none (h : d.mark? place ≠ some .directory) (hq : q ≠ []) :
    d.mark? (place ++ q) = none := by
  rw [mark?, Entries.find?_append]
  cases hfound : d.root.find? place with
  | none => rfl
  | some found =>
    cases found with
    | directory entries => exact absurd (mark?_of_find?_root hfound) h
    | file | link => simp [Entry.find?, hq]

theorem mark?_eq_directory_of_append (h : d.mark? (place ++ q) ≠ none) (hq : q ≠ []) :
    d.mark? place = some .directory := by
  by_contra hother
  exact h (mark?_append_eq_none hother hq)

theorem mark?_eq_none_of_isPrefix (h : d.mark? place = none) (hq : place <+: q) :
    d.mark? q = none := by
  obtain ⟨below, rfl⟩ := hq
  cases below with
  | nil => rwa [List.append_nil]
  | cons name rest => exact mark?_append_eq_none (by rw [h]; exact nofun) (List.cons_ne_nil _ _)

theorem mark?_set_of_not_isPrefix (h : ¬ place <+: q) : (d.set place entry).mark? q = d.mark? q :=
  Entries.mark_find?_set_of_not_isPrefix h

theorem find?_root_set_append (h : d.mark? parent = some .directory) (below : Place) :
    (d.set (parent ++ [name]) entry).root.find? (parent ++ [name] ++ below) =
      entry.bind (·.find? below) :=
  Entries.find?_set_append name below h

theorem mark?_set_self (h : d.mark? parent = some .directory) :
    (d.set (parent ++ [name]) entry).mark? (parent ++ [name]) = entry.map Entry.mark := by
  have hset : (d.set (parent ++ [name]) entry).root.find? (parent ++ [name] ++ []) =
      entry.bind (·.find? []) := find?_root_set_append h []
  rw [List.append_nil] at hset
  rw [mark?, hset]
  cases entry <;> simp

theorem mark?_set_none (hplace : place ≠ []) (q : Place) :
    (d.set place none).mark? q = if place <+: q then none else d.mark? q := by
  split
  · rename_i hunder
    obtain ⟨below, rfl⟩ := hunder
    exact Option.map_eq_none_iff.mpr (Entries.find?_set_none hplace below)
  · rename_i hunder
    exact mark?_set_of_not_isPrefix hunder

/-- An entry that holds nothing leaves nothing below its place. -/
theorem mark?_set_append (h : d.mark? parent = some .directory)
    (hentry : ∀ entries, entry = some (.directory entries) → entries = []) (hq : q ≠ []) :
    (d.set (parent ++ [name]) entry).mark? (parent ++ [name] ++ q) = none := by
  rw [mark?, find?_root_set_append h]
  cases entry with
  | none => rfl
  | some entry =>
    cases entry with
    | file | link => simp [Entry.find?, hq]
    | directory entries =>
      obtain rfl := hentry entries rfl
      cases q with
      | nil => exact absurd rfl hq
      | cons name rest => simp [Entries.find?_cons]

/-- A file that is added has its content. -/
theorem Sound.addFile {content : Content} (h : d.Sound)
    (hparent : d.mark? parent = some .directory) :
    (d.addFile (parent ++ [name]) content).Sound := by
  intro q id hfile
  change (d.set (parent ++ [name]) (some (.file d.files.length))).mark? q = _ at hfile
  change id < (d.files ++ [content]).length
  rw [List.length_append]
  by_cases hunder : parent ++ [name] <+: q
  · obtain ⟨below, rfl⟩ := hunder
    cases below with
    | nil =>
      rw [List.append_nil, mark?_set_self hparent] at hfile
      obtain rfl := Mark.file.inj (Option.some.inj hfile)
      exact Nat.lt_succ_self _
    | cons first rest =>
      rw [mark?_set_append hparent (fun _ hentry => by cases hentry)
        (List.cons_ne_nil first rest)] at hfile
      cases hfile
  · rw [mark?_set_of_not_isPrefix hunder] at hfile
    exact Nat.lt_of_lt_of_le (h q id hfile) (Nat.le_add_right _ _)

end Disk

end Montage
