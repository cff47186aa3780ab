import Montage.Proofs.Disk.Create

/-! What a move does, and what is left to a copy where a move is not possible. -/
namespace Montage.Disk

variable {d d' : Disk} {p q : Path} {parent parent' : Place} {name name' : String}
  {found : Option Entry} {slash : Bool} {id : Nat} {e : FileError}

theorem look_eq_ok {entry : Entry} (h : d.look p = .ok entry) :
    ∃ location, d.reach p = .ok location ∧ lookAt location = .ok entry := by
  rw [look] at h
  cases hreach : d.reach p with
  | error e => rw [hreach] at h; cases h
  | ok location =>
    rw [hreach] at h
    exact ⟨location, rfl, h⟩

/-- What is moved is there. -/
theorem exists_of_rename (h : d.rename p q = .ok d') :
    ∃ location, d.locate p = .ok location ∧
      ∀ parent name slash, location ≠ .name parent name none slash := by
  rw [rename] at h
  cases hp : d.locate p with
  | error e => rw [hp] at h; cases h
  | ok location =>
    refine ⟨location, rfl, ?_⟩
    rintro parent name slash rfl
    rw [hp] at h
    change (d.locate q >>= _) = _ at h
    cases hq : d.locate q with
    | error e => rw [hq] at h; cases h
    | ok target =>
      rw [hq] at h
      cases target <;> cases h

/-- What is copied is a file. -/
theorem exists_of_copy (h : d.copy p q = .ok d') : ∃ id, d.look p = .ok (.file id) := by
  rw [copy] at h
  cases hlook : d.look p with
  | error e => rw [hlook] at h; cases h
  | ok entry =>
    rw [hlook] at h
    cases entry with
    | file id => exact ⟨id, rfl⟩
    | directory | link => cases h

theorem rename_file (hp : d.locate p = .ok (.name parent name (some (.file id)) false))
    (hq : d.locate q = .ok (.name parent' name' found false)) :
    d.rename p q =
      if parent ++ [name] = parent' ++ [name'] ∨ isSameFile (.file id) found = true then .ok d
      else if (d.content id).isDevice = true ∨ d.isDevice found = true then .error .otherDevice
      else if found.any Entry.isDirectory = true then .error .isADirectory
      else .ok ((d.set (parent ++ [name]) none).set (parent' ++ [name']) (some (.file id))) := by
  rw [rename, hp, hq]
  change (if (decide (parent ++ [name] = parent' ++ [name']) || isSameFile (.file id) found) = true
    then _ else if ((d.content id).isDevice || d.isDevice found) = true then _ else _) = _
  simp only [Bool.or_eq_true, decide_eq_true_eq]
  match found with
  | none | some (.file _) | some (.directory _) | some (.link _) => rfl

/-- A file is moved to a place where no directory is, unless both names lead to it already. -/
theorem rename_file_eq_ok (hp : d.locate p = .ok (.name parent name (some (.file id)) false))
    (h : d.rename p q = .ok d') :
    ∃ parent' name' found, d.locate q = .ok (.name parent' name' found false) ∧
      ((d' = d ∧ (parent ++ [name] = parent' ++ [name'] ∨ found = some (.file id))) ∨
        ((∀ entries, found ≠ some (.directory entries)) ∧ d.isDevice found = false ∧
          d' = (d.set (parent ++ [name]) none).set (parent' ++ [name']) (some (.file id)))) := by
  cases hq : d.locate q with
  | error e =>
    rw [rename, hp, hq] at h
    cases h
  | ok location =>
    match location with
    | .directory _ | .name _ _ _ true =>
      rw [rename, hp, hq] at h
      cases h
    | .name parent' name' found false =>
      refine ⟨parent', name', found, rfl, ?_⟩
      rw [rename_file hp hq] at h
      split at h
      · rename_i hsame
        refine Or.inl ⟨(Except.ok.inj h).symm, hsame.imp_right fun hfile => ?_⟩
        match found with
        | some (.file other) => rw [of_decide_eq_true hfile]
        | none | some (.directory _) | some (.link _) => cases hfile
      · split at h
        · cases h
        · rename_i hdevice
          have hother := eq_false_of_ne_true fun hfound => hdevice (Or.inr hfound)
          split at h
          · cases h
          · rename_i hdirectory
            refine Or.inr ⟨?_, hother, (Except.ok.inj h).symm⟩
            rintro entries rfl
            exact hdirectory rfl

/-- Nothing keeps a file from a name that no directory and no device has. -/
theorem rename_of_locate (hp : d.locate p = .ok (.name parent name (some (.file id)) false))
    (hdevice : (d.content id).isDevice = false)
    (hq : d.locate q = .ok (.name parent' name' found false))
    (hfound : d.isDevice found = false)
    (hdirectory : ∀ entries, found ≠ some (.directory entries)) :
    ∃ d', d.rename p q = .ok d' := by
  rw [rename_file hp hq]
  split
  · exact ⟨_, rfl⟩
  · have hany : found.any Entry.isDirectory = false := by
      match found with
      | some (.directory entries) => exact absurd rfl (hdirectory entries)
      | none | some (.file _) | some (.link _) => rfl
    rw [if_neg (by simp [hdevice, hfound]), hany]
    exact ⟨_, rfl⟩

/-- Where a file cannot be moved, it can be copied to a device only. -/
theorem copy_of_rename_error
    (hp : d.locate p = .ok (.name parent name found false))
    (hlook : d.look p = lookAt (.name parent name found false))
    (hrename : d.rename p q = .error e) (h : d.copy p q = .ok d') :
    d' = d ∧ ∃ parent' name' device,
      d.locate q = .ok (.name parent' name' (some (.file device)) false) ∧
      (d.content device).isDevice = true := by
  rw [copy, hlook] at h
  match found with
  | none | some (.directory _) | some (.link _) => cases h
  | some (.file id) =>
    change (if (d.content id).isDevice = true then _ else _) = _ at h
    split at h
    · cases h
    rename_i hdevice
    rw [openFile] at h
    cases hreach : d.reach q with
    | error e => rw [hreach] at h; cases h
    | ok location =>
      rw [hreach] at h
      obtain ⟨other, hother, hsame⟩ := locate_of_reach hreach
      have hmoved {parent' : Place} {name' : String} {found : Option Entry}
          (hq : d.locate q = .ok (.name parent' name' found false))
          (hfound : d.isDevice found = false)
          (hdirectory : ∀ entries, found ≠ some (.directory entries)) : False := by
        obtain ⟨d', hd'⟩ := rename_of_locate hp (eq_false_of_ne_true hdevice) hq hfound hdirectory
        rw [hrename] at hd'
        cases hd'
      rcases hsame with rfl | ⟨parent', name', target, rfl⟩
      · match other with
        | .directory _ | .name _ _ _ true | .name _ _ (some (.directory _)) false
        | .name _ _ (some (.link _)) false => cases h
        | .name parent' name' none false => exact (hmoved hother rfl nofun).elim
        | .name parent' name' (some (.file device)) false =>
          cases hkind : (d.content device).isDevice with
          | false => exact (hmoved hother hkind nofun).elim
          | true =>
            change (if (d.content device).kind = .full ∧ _ then _ else
              if (d.content device).isDevice = true then _ else _) = _ at h
            rw [hkind] at h
            split at h
            · cases h
            · exact ⟨(Except.ok.inj h).symm, parent', name', device, hother, hkind⟩
      · exact (hmoved hother rfl nofun).elim

end Montage.Disk
