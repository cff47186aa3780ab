import Montage.Proofs.Json.Fences

/-! Where the text of an object begins and ends, and that it can be read without what surrounds
it. -/
namespace Montage.Json.Source

variable {cs ds rest more : List Char} {c : Char} {v : Source} {s t : Stage}

/-! ### Reading without what follows -/

theorem skipSpace_shrink (h : skipSpace cs = ds ++ more) :
    ∃ used, cs = used ++ more ∧ skipSpace used = ds := by
  obtain ⟨spaces, hspaces⟩ := List.dropWhile_suffix (l := cs) isSpace
  rw [← skipSpace, h, ← List.append_assoc] at hspaces
  subst hspaces
  refine ⟨spaces ++ ds, rfl, ?_⟩
  rw [skipSpace, List.dropWhile_append] at h
  split at h
  · rename_i hnil
    have hle := (List.dropWhile_suffix (l := more) isSpace).length_le
    rw [h, List.length_append] at hle
    have hds : ds = [] := List.length_eq_zero_iff.mp (by omega)
    rw [skipSpace, List.isEmpty_iff.mp hnil, hds]
  · exact List.append_cancel_right h

theorem skipSpace_cons_shrink (h : skipSpace cs = c :: (ds ++ more)) :
    ∃ used, cs = used ++ more ∧ skipSpace used = c :: ds :=
  skipSpace_shrink h

theorem Spells.shrink {units : List CodeUnit} (h : Spells cs units (ds ++ more)) :
    ∃ used, cs = used ++ more ∧ Spells used units ds := by
  generalize hrest : ds ++ more = rest at h
  induction h with
  | close rest =>
    subst hrest
    exact ⟨'\x22' :: ds, rfl, .close ds⟩
  | number hunit h ih =>
    obtain ⟨used, rfl, hspells⟩ := ih hrest
    obtain ⟨digits, rfl, -, -, hlocal⟩ := hexUnit?_local hunit
    exact ⟨'\\' :: 'u' :: (digits ++ used), by simp, .number (hlocal used) hspells⟩
  | @escape _ _ _ e _ hescape h ih =>
    obtain ⟨used, rfl, hspells⟩ := ih hrest
    exact ⟨'\\' :: e :: used, rfl, .escape hescape hspells⟩
  | @char _ _ _ c hquote hslash hvisible h ih =>
    obtain ⟨used, rfl, hspells⟩ := ih hrest
    exact ⟨c :: used, rfl, .char hquote hslash hvisible hspells⟩

theorem text?_shrink {text : Option String} (h : text? cs = some (text, ds ++ more)) :
    ∃ used, cs = used ++ more ∧ text? used = some (text, ds) := by
  obtain ⟨units, hunits, rfl⟩ := text?_eq_some_iff.mp h
  obtain ⟨used, rfl, hspells⟩ := hunits.shrink
  exact ⟨used, rfl, text?_eq_some_iff.mpr ⟨units, hspells, rfl⟩⟩

theorem bare?_shrink (h : bare? cs = some (v, ds ++ more)) (hds : EndsNumber ds) :
    ∃ used, cs = used ++ more ∧ bare? used = some (v, ds) := by
  obtain ⟨used, -, rfl, -, hlocal⟩ := bare?_local h
  exact ⟨used ++ ds, (List.append_assoc used ds more).symm, hlocal ds hds⟩

theorem forall_head_of_append {p : Char → Prop} (h : ∀ c ∈ (ds ++ more).head?, p c) :
    ∀ c ∈ ds.head?, p c := by
  cases ds with
  | nil =>
    rintro c hc
    cases hc
  | cons d ds => exact h

/-- No step looks at what stands behind the text that the next one begins with. -/
theorem Step.shrink (h : Step s t) (hclear : t.IsClear) (ht : t.text = ds ++ more) :
    ∃ cs, s.text = cs ++ more ∧ Step ⟨s.next, s.frames, cs⟩ ⟨t.next, t.frames, ds⟩ := by
  cases h with
  | string hcs htext =>
    subst ht
    obtain ⟨used, rfl, hused⟩ := text?_shrink htext
    obtain ⟨cs, rfl, hcs'⟩ := skipSpace_cons_shrink hcs
    exact ⟨cs, rfl, .string hcs' hused⟩
  | noItems hcs hrest =>
    subst ht
    obtain ⟨used, rfl, hused⟩ := skipSpace_cons_shrink hrest
    obtain ⟨cs, rfl, hcs'⟩ := skipSpace_cons_shrink hcs
    exact ⟨cs, rfl, .noItems hcs' hused⟩
  | items hcs hrest =>
    dsimp only at ht
    rw [ht] at hrest
    obtain ⟨used, rfl, rfl⟩ := skipSpace_shrink ht
    obtain ⟨cs, rfl, hcs'⟩ := skipSpace_cons_shrink hcs
    exact ⟨cs, rfl, .items hcs' (forall_head_of_append hrest)⟩
  | noFields hcs hrest =>
    subst ht
    obtain ⟨used, rfl, hused⟩ := skipSpace_cons_shrink hrest
    obtain ⟨cs, rfl, hcs'⟩ := skipSpace_cons_shrink hcs
    exact ⟨cs, rfl, .noFields hcs' hused⟩
  | fields hcs hrest =>
    dsimp only at ht
    rw [ht] at hrest
    obtain ⟨used, rfl, rfl⟩ := skipSpace_shrink ht
    obtain ⟨cs, rfl, hcs'⟩ := skipSpace_cons_shrink hcs
    exact ⟨cs, rfl, .fields hcs' (forall_head_of_append hrest)⟩
  | bare hcs hbare =>
    subst ht
    obtain ⟨used, hused, hbare'⟩ := bare?_shrink hbare
      (endsNumber_of_isClear (forall_head_of_append hclear))
    rw [hused] at hcs
    obtain ⟨cs, rfl, rfl⟩ := skipSpace_shrink hused
    exact ⟨cs, rfl, .bare (forall_head_of_append hcs) hbare'⟩
  | name hcs hname hmore =>
    subst ht
    obtain ⟨after, rfl, hafter⟩ := skipSpace_cons_shrink hmore
    obtain ⟨used, rfl, hused⟩ := text?_shrink hname
    obtain ⟨cs, rfl, hcs'⟩ := skipSpace_cons_shrink hcs
    exact ⟨cs, rfl, .name hcs' hused hafter⟩
  | nextItem hcs =>
    subst ht
    obtain ⟨cs, rfl, hcs'⟩ := skipSpace_cons_shrink hcs
    exact ⟨cs, rfl, .nextItem hcs'⟩
  | lastItem hcs =>
    subst ht
    obtain ⟨cs, rfl, hcs'⟩ := skipSpace_cons_shrink hcs
    exact ⟨cs, rfl, .lastItem hcs'⟩
  | nextField hcs =>
    subst ht
    obtain ⟨cs, rfl, hcs'⟩ := skipSpace_cons_shrink hcs
    exact ⟨cs, rfl, .nextField hcs'⟩
  | lastField hcs =>
    subst ht
    obtain ⟨cs, rfl, hcs'⟩ := skipSpace_cons_shrink hcs
    exact ⟨cs, rfl, .lastField hcs'⟩

theorem Reads.shrink (h : Reads s v rest) (hrest : skipSpace rest = []) :
    ∃ cs, s.text = cs ++ rest ∧ Reads ⟨s.next, s.frames, cs⟩ v [] := by
  induction h using Relation.ReflTransGen.head_induction_on with
  | refl => exact ⟨[], rfl, .refl⟩
  | head hstep hreads ih =>
    obtain ⟨ds, hds, hds'⟩ := ih
    obtain ⟨cs, hcs, hstep'⟩ := hstep.shrink (Reads.isClear hreads hrest) hds
    exact ⟨cs, hcs, .head hstep' hds'⟩

/-! ### The closing bracket -/

/-- The bracket that ends a value. -/
def bracket? : Source → Option Char
  | .array _ => some ']'
  | .object _ => some '\x7d'
  | _ => none

def Frame.bracket : Frame → Char
  | .items _ => ']'
  | .fields .. => '\x7d'

def Next.bracket? : Next → Option Char
  | .name _ => some '\x7d'
  | _ => none

/-- The bracket that ends what the reader is in, outermost. -/
def Stage.bracket? (s : Stage) : Option Char :=
  s.frames.foldl (fun _ f => some f.bracket) s.next.bracket?

theorem suffix_of_skipSpace (h : skipSpace cs = c :: rest) : c :: rest <:+ cs := by
  rw [← h]
  exact List.dropWhile_suffix isSpace

/-- A step leaves the reader in the outermost bracket, or takes the end of it. -/
theorem Step.bracket? (h : Step s t) (hs : s.bracket? = some c) :
    t.bracket? = some c ∨
      ∃ v, t.next = .after v ∧ t.frames = [] ∧ v.bracket? = some c ∧ c :: t.text <:+ s.text := by
  have hvalue {frames : List Frame} {cs ds : List Char} (next : Next)
      (hs : Stage.bracket? ⟨.value, frames, cs⟩ = some c) :
      Stage.bracket? ⟨next, frames, ds⟩ = some c := by
    cases frames with
    | nil => cases hs
    | cons f frames => exact hs
  cases h with
  | string hcs htext => exact .inl (hvalue _ hs)
  | noItems hcs hrest => exact .inl (hvalue _ hs)
  | @items frames _ _ hcs hrest =>
    cases frames with
    | nil => cases hs
    | cons f frames => exact .inl hs
  | noFields hcs hrest => exact .inl (hvalue _ hs)
  | fields hcs hrest => exact .inl (hvalue _ hs)
  | bare hcs hbare => exact .inl (hvalue _ hs)
  | name hcs hname hmore => exact .inl hs
  | nextItem hcs => exact .inl hs
  | @lastItem _ _ frames _ _ hcs =>
    cases frames with
    | nil =>
      obtain rfl := Option.some.inj hs
      exact .inr ⟨_, rfl, rfl, rfl, suffix_of_skipSpace hcs⟩
    | cons f frames => exact .inl hs
  | nextField hcs => exact .inl hs
  | @lastField _ _ _ frames _ _ hcs =>
    cases frames with
    | nil =>
      obtain rfl := Option.some.inj hs
      exact .inr ⟨_, rfl, rfl, rfl, suffix_of_skipSpace hcs⟩
    | cons f frames => exact .inl hs

/-- Once a value is read and nothing is open, the reader is done. -/
theorem eq_of_reads_after {w : Source} (h : Reads ⟨.after w, [], cs⟩ v rest) :
    w = v ∧ cs = rest := by
  rcases Relation.ReflTransGen.cases_head h with heq | ⟨t, hstep, -⟩
  · cases heq
    exact ⟨rfl, rfl⟩
  · cases hstep

/-- What is read inside a bracket ends with it. -/
theorem Reads.bracket? (h : Reads s v rest) (hrest : skipSpace rest = [])
    (hs : s.bracket? = some c) : v.bracket? = some c ∧ c :: rest <:+ s.text := by
  induction h using Relation.ReflTransGen.head_induction_on with
  | refl => cases hs
  | @head s t hstep hreads ih =>
    obtain ⟨next, frames, ds⟩ := t
    rcases hstep.bracket? hs with ht | ⟨w, rfl, rfl, hw, hsuffix⟩
    · obtain ⟨hv, hsuffix⟩ := ih ht
      obtain ⟨cs, hcs, -⟩ := hstep.shrink (Reads.isClear hreads hrest) (List.nil_append ds).symm
      exact ⟨hv, hsuffix.trans ⟨cs, hcs.symm⟩⟩
    · obtain ⟨rfl, rfl⟩ := eq_of_reads_after hreads
      exact ⟨hw, hsuffix⟩

theorem bracket?_of_bare? (h : bare? cs = some (v, rest)) : v.bracket? = none := by
  rw [bare?] at h
  rcases Option.or_eq_some_iff.mp h with hword | ⟨-, hnumber⟩
  · unfold literal? at hword
    split at hword <;> cases hword <;> rfl
  · obtain ⟨n, rfl⟩ := isWritten_of_number? hnumber
    rfl

/-- Blanks in front of a value do not matter. -/
theorem Step.of_skipSpace_eq {frames : List Frame} (h : Step ⟨.value, frames, cs⟩ t)
    (hds : skipSpace ds = skipSpace cs) : Step ⟨.value, frames, ds⟩ t := by
  cases h with
  | string hcs htext => exact .string (hds.trans hcs) htext
  | noItems hcs hrest => exact .noItems (hds.trans hcs) hrest
  | items hcs hrest => exact .items (hds.trans hcs) hrest
  | noFields hcs hrest => exact .noFields (hds.trans hcs) hrest
  | fields hcs hrest => exact .fields (hds.trans hcs) hrest
  | bare hcs hbare =>
    rw [← hds] at hcs hbare
    exact .bare hcs hbare

theorem steps_of_skipSpace_eq {frames frames' : List Frame}
    (h : Relation.ReflTransGen Step ⟨.value, frames, cs⟩ ⟨.after v, frames', rest⟩)
    (hds : skipSpace ds = skipSpace cs) :
    Relation.ReflTransGen Step ⟨.value, frames, ds⟩ ⟨.after v, frames', rest⟩ := by
  rcases Relation.ReflTransGen.cases_head h with heq | ⟨t, hstep, ht⟩
  · cases heq
  · exact .head (hstep.of_skipSpace_eq hds) ht

theorem Reads.exists_braces {fields : List (Option String × Source)}
    (h : Reads ⟨.value, [], cs⟩ (.object fields) []) :
    ∃ inner, skipSpace cs = '\x7b' :: (inner ++ ['\x7d']) := by
  have hended {text : List Char} (hsuffix : ['\x7d'] <:+ text) :
      ∃ inner, text = inner ++ ['\x7d'] := by
    obtain ⟨inner, hinner⟩ := hsuffix
    exact ⟨inner, hinner.symm⟩
  rcases Relation.ReflTransGen.cases_head h with heq | ⟨t, hstep, ht⟩
  · cases heq
  cases hstep with
  | string hcs htext => cases (eq_of_reads_after ht).1
  | noItems hcs hrest => cases (eq_of_reads_after ht).1
  | items hcs hrest => cases (Reads.bracket? ht rfl rfl).1
  | noFields hcs hrest =>
    obtain ⟨-, rfl⟩ := eq_of_reads_after ht
    obtain ⟨inner, rfl⟩ := hended (suffix_of_skipSpace hrest)
    exact ⟨inner, hcs⟩
  | fields hcs hrest =>
    have hsuffix := (Reads.bracket? ht rfl rfl).2
    obtain ⟨inner, rfl⟩ := hended (hsuffix.trans (List.dropWhile_suffix isSpace))
    exact ⟨inner, hcs⟩
  | bare hcs hbare =>
    obtain ⟨rfl, -⟩ := eq_of_reads_after ht
    cases bracket?_of_bare? hbare

/-- Only blanks surround the braces of an object, and all of it stands inside them. -/
theorem exists_braces {fields : List (Option String × Source)}
    (h : ofText? cs = some (.object fields)) :
    ∃ before inner after, cs = before ++ '\x7b' :: (inner ++ '\x7d' :: after) ∧
      (∀ c ∈ before, isSpace c = true) ∧ (∀ c ∈ after, isSpace c = true) ∧
      ofText? ('\x7b' :: (inner ++ ['\x7d'])) = some (.object fields) := by
  obtain ⟨after, hreads, hafter⟩ := ofText?_eq_some_iff.mp h
  obtain ⟨text, rfl, htext⟩ := hreads.shrink hafter
  obtain ⟨inner, hinner⟩ := htext.exists_braces
  have hsplit := List.takeWhile_append_dropWhile (p := isSpace) (l := text)
  rw [← skipSpace, hinner] at hsplit
  have hbefore : ∀ c ∈ text.takeWhile isSpace, isSpace c = true := fun c hc =>
    List.mem_takeWhile_imp hc
  have hsame : skipSpace ('\x7b' :: (inner ++ ['\x7d'])) = skipSpace text := by
    rw [← hinner, skipSpace_skipSpace]
  have hread : ofText? ('\x7b' :: (inner ++ ['\x7d'])) = some (.object fields) :=
    ofText?_eq_some_iff.mpr ⟨[], steps_of_skipSpace_eq htext hsame, rfl⟩
  generalize text.takeWhile isSpace = before at hsplit hbefore
  subst hsplit
  refine ⟨before, inner, after, ?_, hbefore, List.dropWhile_eq_nil_iff.mp hafter, hread⟩
  rw [List.append_assoc, List.cons_append, List.append_assoc, List.singleton_append]

end Montage.Json.Source
