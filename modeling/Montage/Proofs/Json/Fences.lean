import Mathlib.Data.List.DropRight
import Montage.Proofs.Json.Letters

/-! A reader that goes through a JSON text, and one that goes through the same text without its
fences, take the same steps. A fence can stand in strings only. -/
namespace Montage.Json.Source

variable {name cs ds rest : List Char} {c : Char} {v w : Source} {s t s' : Stage} {k m total : Nat}

/-! ### Where no fence stands -/

theorem skipSpace_skipSpace (cs : List Char) : skipSpace (skipSpace cs) = skipSpace cs :=
  List.dropWhile_idempotent isSpace cs

theorem head_of_skipSpace_nil (h : skipSpace cs = []) : ∀ c ∈ cs.head?, isSpace c = true := by
  intro c hc
  obtain ⟨more, rfl⟩ := List.head?_eq_some_iff.mp hc
  exact List.dropWhile_eq_nil_iff.mp h c List.mem_cons_self

theorem head_of_skipSpace_cons {d : Char} (h : skipSpace cs = d :: rest) :
    ∀ c ∈ cs.head?, isSpace c = true ∨ c = d := by
  intro c hc
  obtain ⟨more, rfl⟩ := List.head?_eq_some_iff.mp hc
  by_cases hspace : isSpace c = true
  · exact .inl hspace
  · rw [skipSpace, List.dropWhile_cons_of_neg hspace] at h
    exact .inr (List.cons.inj h).1

/-- A value or a name begins with no fence, and none follows a value. -/
def Stage.IsClear (s : Stage) : Prop :=
  match s.next with
  | .after _ => ∀ c ∈ s.text.head?, isSpace c = true ∨ c ∈ [',', ']', '\x7d']
  | _ => ∃ c rest, skipSpace s.text = c :: rest ∧ c ≠ '\x60'

theorem Step.isClear (h : Step s t) : s.IsClear := by
  cases h with
  | string hcs htext => exact ⟨_, _, hcs, by decide⟩
  | noItems hcs hrest => exact ⟨_, _, hcs, by decide⟩
  | items hcs hrest => exact ⟨_, _, hcs, by decide⟩
  | noFields hcs hrest => exact ⟨_, _, hcs, by decide⟩
  | fields hcs hrest => exact ⟨_, _, hcs, by decide⟩
  | bare hcs hbare =>
    obtain ⟨used, hne, hused, hletters, -⟩ := bare?_local hbare
    obtain ⟨c, used, rfl⟩ := List.exists_cons_of_ne_nil hne
    have hc := fence_notMem_of_isBare hletters
    exact ⟨c, _, hused, fun heq => hc (heq ▸ List.mem_cons_self)⟩
  | name hcs hname hmore => exact ⟨_, _, hcs, by decide⟩
  | nextItem hcs =>
    exact fun c hc => (head_of_skipSpace_cons hcs c hc).imp_right fun heq => by simp [heq]
  | lastItem hcs =>
    exact fun c hc => (head_of_skipSpace_cons hcs c hc).imp_right fun heq => by simp [heq]
  | nextField hcs =>
    exact fun c hc => (head_of_skipSpace_cons hcs c hc).imp_right fun heq => by simp [heq]
  | lastField hcs =>
    exact fun c hc => (head_of_skipSpace_cons hcs c hc).imp_right fun heq => by simp [heq]

theorem Reads.isClear (h : Reads s v rest) (hrest : skipSpace rest = []) : s.IsClear := by
  rcases Relation.ReflTransGen.cases_head h with rfl | ⟨t, hstep, -⟩
  · exact fun c hc => .inl (head_of_skipSpace_nil hrest c hc)
  · exact hstep.isClear

/-! ### Two readers side by side -/

inductive NextLoses : Nat → Next → Next → Prop
  | value : NextLoses 0 .value .value
  | name {k : Nat} {before before' : List (Option String × Source)}
      (h : Loses k (.object before.reverse) (.object before'.reverse)) :
      NextLoses k (.name before) (.name before')
  | after {k : Nat} {v w : Source} (h : Loses k v w) : NextLoses k (.after v) (.after w)

inductive FramesLose : Nat → List Frame → List Frame → Prop
  | nil : FramesLose 0 [] []
  | items {k m : Nat} {before before' : List Source} {frames frames' : List Frame}
      (h : Loses k (.array before.reverse) (.array before'.reverse))
      (hframes : FramesLose m frames frames') :
      FramesLose (k + m) (.items before :: frames) (.items before' :: frames')
  | fields {k l m : Nat} {before before' : List (Option String × Source)}
      {name name' : Option String} {frames frames' : List Frame}
      (h : Loses k (.object before.reverse) (.object before'.reverse))
      (hname : Loses l (.string name) (.string name')) (hframes : FramesLose m frames frames') :
      FramesLose (k + l + m) (.fields before name :: frames) (.fields before' name' :: frames')

/-- The second reader stands where the first does. Of the characters that its text lacks, those
that are not ahead are lost from what it has read. -/
inductive StageLoses (name : List Char) (total : Nat) : Stage → Stage → Prop
  | mk {k m : Nat} {next next' : Next} {frames frames' : List Frame} {cs ds : List Char}
      (hnext : NextLoses k next next') (hframes : FramesLose m frames frames')
      (htext : Text.Without ('\x60' :: name) cs ds)
      (htotal : k + m + cs.length = total + ds.length) :
      StageLoses name total ⟨next, frames, cs⟩ ⟨next', frames', ds⟩

theorem exists_skipSpace (h : Text.Without ('\x60' :: name) cs ds) (hcs : skipSpace cs = c :: rest)
    (hc : c ≠ '\x60') :
    ∃ rest', skipSpace ds = c :: rest' ∧ Text.Without ('\x60' :: name) rest rest' ∧
      rest.length + ds.length = cs.length + rest'.length := by
  induction h with
  | nil => cases hcs
  | @keep cs ds d h ih =>
    by_cases hspace : isSpace d = true
    · rw [skipSpace, List.dropWhile_cons_of_pos hspace] at hcs
      obtain ⟨rest', hds, hrest, hcount⟩ := ih hcs
      refine ⟨rest', ?_, hrest, ?_⟩
      · rw [skipSpace, List.dropWhile_cons_of_pos hspace]
        exact hds
      · rw [List.length_cons, List.length_cons]
        omega
    · rw [skipSpace, List.dropWhile_cons_of_neg hspace] at hcs
      obtain ⟨rfl, rfl⟩ := List.cons.inj hcs
      refine ⟨ds, ?_, h, ?_⟩
      · rw [skipSpace, List.dropWhile_cons_of_neg hspace]
      · rw [List.length_cons, List.length_cons]
        omega
  | cut h ih =>
    have hspace : ¬ isSpace '\x60' = true := by decide
    rw [List.cons_append, skipSpace, List.dropWhile_cons_of_neg hspace] at hcs
    exact absurd (List.cons.inj hcs).1.symm hc

theorem head_of_clear (h : Text.Without ('\x60' :: name) cs ds)
    (hclear : ∃ c rest, skipSpace (skipSpace cs) = c :: rest ∧ c ≠ '\x60') :
    (skipSpace cs).head? = (skipSpace ds).head? ∧
      Text.Without ('\x60' :: name) (skipSpace cs) (skipSpace ds) ∧
      (skipSpace cs).length + ds.length = cs.length + (skipSpace ds).length := by
  obtain ⟨c, rest, hcs, hc⟩ := hclear
  rw [skipSpace_skipSpace] at hcs
  obtain ⟨rest', hds, hrest, hcount⟩ := exists_skipSpace h hcs hc
  rw [hcs, hds]
  refine ⟨rfl, .keep c hrest, ?_⟩
  rw [List.length_cons, List.length_cons]
  omega

theorem endsNumber_of_isClear (h : ∀ c ∈ cs.head?, isSpace c = true ∨ c ∈ [',', ']', '\x7d']) :
    EndsNumber cs := by
  intro c hc
  rcases h c hc with hspace | hmark
  · simp only [isSpace, Bool.or_eq_true, decide_eq_true_eq] at hspace
    rcases hspace with ((rfl | rfl) | rfl) | rfl <;> decide
  · simp only [List.mem_cons, List.not_mem_nil, or_false] at hmark
    rcases hmark with rfl | rfl | rfl <;> decide

/-- What follows a value is not the beginning of a fence. -/
theorem endsNumber_of_without (h : Text.Without ('\x60' :: name) cs ds)
    (hclear : ∀ c ∈ cs.head?, isSpace c = true ∨ c ∈ [',', ']', '\x7d']) : EndsNumber ds := by
  cases cs with
  | nil =>
    rw [h.eq_nil (List.cons_ne_nil _ _)]
    rintro c hc
    cases hc
  | cons c cs =>
    have hc : c ≠ '\x60' := by
      rintro rfl
      rcases hclear _ rfl with hspace | hmark
      · revert hspace
        decide
      · revert hmark
        decide
    obtain ⟨ds, rfl, -⟩ := h.cons hc
    have hends : EndsNumber (c :: ds) := endsNumber_of_isClear hclear
    exact hends

theorem exists_bare? (h : bare? cs = some (v, rest)) (hds : Text.Without ('\x60' :: name) cs ds)
    (hclear : ∀ c ∈ rest.head?, isSpace c = true ∨ c ∈ [',', ']', '\x7d']) :
    ∃ rest', bare? ds = some (v, rest') ∧ Text.Without ('\x60' :: name) rest rest' ∧
      rest.length + ds.length = cs.length + rest'.length := by
  obtain ⟨used, -, rfl, hletters, hlocal⟩ := bare?_local h
  obtain ⟨rest', rfl, hrest⟩ := hds.append (fence_notMem_of_isBare hletters)
  refine ⟨rest', hlocal rest' (endsNumber_of_without hrest hclear), hrest, ?_⟩
  rw [List.length_append, List.length_append]
  omega

/-- Where the text goes on without a fence, both readers take the same step. -/
theorem StageLoses.step (hname : ∀ c ∈ '\x60' :: name, IsPlain c) (h : StageLoses name total s s')
    (hstep : Step s t) (ht : t.IsClear) : ∃ t', Step s' t' ∧ StageLoses name total t t' := by
  obtain ⟨hnext, hframes, htext, htotal⟩ := h
  cases hstep with
  | string hcs hread =>
    cases hnext
    obtain ⟨rest', hcs', hrest, hcount⟩ := exists_skipSpace htext hcs (by decide)
    obtain ⟨k, text', more', hread', hmore, hloses, hcount'⟩ := exists_text? hname hread hrest
    exact ⟨_, .string hcs' hread', .mk (.after hloses) hframes hmore (by omega)⟩
  | noItems hcs hrest =>
    cases hnext
    obtain ⟨rest', hcs', hafter, hcount⟩ := exists_skipSpace htext hcs (by decide)
    obtain ⟨more', hrest', hmore, hcount'⟩ := exists_skipSpace hafter hrest (by decide)
    exact ⟨_, .noItems hcs' hrest', .mk (.after (.refl _)) hframes hmore (by omega)⟩
  | items hcs hrest =>
    cases hnext
    obtain ⟨rest', hcs', hafter, hcount⟩ := exists_skipSpace htext hcs (by decide)
    obtain ⟨hhead, hmore, hcount'⟩ := head_of_clear hafter ht
    exact ⟨_, .items hcs' (hhead ▸ hrest), .mk .value (.items (.refl _) hframes) hmore (by omega)⟩
  | noFields hcs hrest =>
    cases hnext
    obtain ⟨rest', hcs', hafter, hcount⟩ := exists_skipSpace htext hcs (by decide)
    obtain ⟨more', hrest', hmore, hcount'⟩ := exists_skipSpace hafter hrest (by decide)
    exact ⟨_, .noFields hcs' hrest', .mk (.after (.refl _)) hframes hmore (by omega)⟩
  | fields hcs hrest =>
    cases hnext
    obtain ⟨rest', hcs', hafter, hcount⟩ := exists_skipSpace htext hcs (by decide)
    obtain ⟨hhead, hmore, hcount'⟩ := head_of_clear hafter ht
    exact ⟨_, .fields hcs' (hhead ▸ hrest), .mk (.name (.refl _)) hframes hmore (by omega)⟩
  | bare hcs hbare =>
    cases hnext
    obtain ⟨used, hne, hused, hletters, hlocal⟩ := bare?_local hbare
    obtain ⟨c, used, rfl⟩ := List.exists_cons_of_ne_nil hne
    have hfence := fence_notMem_of_isBare hletters
    have hc : c ≠ '\x60' := fun heq => hfence (heq ▸ List.mem_cons_self)
    rw [List.cons_append] at hused
    obtain ⟨rest', hcs', hafter, hcount⟩ := exists_skipSpace htext hused hc
    rw [hused] at hbare hcs
    obtain ⟨more', hbare', hmore, hcount'⟩ := exists_bare? hbare (.keep c hafter) ht
    refine ⟨_, .bare (by rw [hcs']; exact hcs) (by rw [hcs']; exact hbare'),
      .mk (.after (.refl _)) hframes hmore ?_⟩
    rw [List.length_cons, List.length_cons] at hcount'
    omega
  | name hcs hread hmore =>
    cases hnext with
    | name hbefore =>
    obtain ⟨rest', hcs', hrest, hcount⟩ := exists_skipSpace htext hcs (by decide)
    obtain ⟨l, name', more', hread', hafter, hloses, hcount'⟩ := exists_text? hname hread hrest
    obtain ⟨after', hmore', hlast, hcount''⟩ := exists_skipSpace hafter hmore (by decide)
    exact ⟨_, .name hcs' hread' hmore', .mk .value (.fields hbefore hloses hframes) hlast
      (by omega)⟩
  | nextItem hcs =>
    cases hnext with
    | after hv =>
    cases hframes with
    | items hbefore hframes =>
    obtain ⟨rest', hcs', hrest, hcount⟩ := exists_skipSpace htext hcs (by decide)
    exact ⟨_, .nextItem hcs', .mk .value (.items (hbefore.items_cons hv) hframes) hrest (by omega)⟩
  | lastItem hcs =>
    cases hnext with
    | after hv =>
    cases hframes with
    | items hbefore hframes =>
    obtain ⟨rest', hcs', hrest, hcount⟩ := exists_skipSpace htext hcs (by decide)
    exact ⟨_, .lastItem hcs', .mk (.after (hbefore.items_cons hv)) hframes hrest (by omega)⟩
  | nextField hcs =>
    cases hnext with
    | after hv =>
    cases hframes with
    | fields hbefore hloses hframes =>
    obtain ⟨rest', hcs', hrest, hcount⟩ := exists_skipSpace htext hcs (by decide)
    exact ⟨_, .nextField hcs', .mk (.name (hbefore.fields_cons hloses hv)) hframes hrest (by omega)⟩
  | lastField hcs =>
    cases hnext with
    | after hv =>
    cases hframes with
    | fields hbefore hloses hframes =>
    obtain ⟨rest', hcs', hrest, hcount⟩ := exists_skipSpace htext hcs (by decide)
    exact ⟨_, .lastField hcs', .mk (.after (hbefore.fields_cons hloses hv)) hframes hrest
      (by omega)⟩

theorem eq_of_skipSpace_nil (h : Text.Without ('\x60' :: name) cs ds) (hcs : skipSpace cs = []) :
    ds = cs := by
  have hfence : '\x60' ∉ cs := fun hmem => by
    have hspace := List.dropWhile_eq_nil_iff.mp hcs _ hmem
    revert hspace
    decide
  rw [← List.append_nil cs] at h
  obtain ⟨rest, rfl, hrest⟩ := h.append hfence
  rw [hrest.eq_nil (List.cons_ne_nil _ _), List.append_nil]

theorem StageLoses.reads (hname : ∀ c ∈ '\x60' :: name, IsPlain c)
    (h : StageLoses name total s s') (hreads : Reads s v rest) (hrest : skipSpace rest = []) :
    ∃ w, Reads s' w rest ∧ Loses total v w := by
  induction hreads using Relation.ReflTransGen.head_induction_on generalizing s' with
  | refl =>
    obtain ⟨hnext, hframes, htext, htotal⟩ := h
    obtain rfl := eq_of_skipSpace_nil htext hrest
    cases hnext with
    | after hv =>
    cases hframes
    refine ⟨_, .refl, ?_⟩
    obtain rfl : _ = total := Nat.add_right_cancel htotal
    exact hv
  | head hstep hreads ih =>
    obtain ⟨t', hstep', ht⟩ := h.step hname hstep (Reads.isClear hreads hrest)
    obtain ⟨w, hw, hloses⟩ := ih ht
    exact ⟨w, .head hstep' hw, hloses⟩

/-- Leaving out a fence leaves a text that can be read, and takes nothing but letters from what it
says. -/
theorem exists_ofText? (hname : ∀ c ∈ '\x60' :: name, IsPlain c)
    (hds : Text.Without ('\x60' :: name) cs ds) (h : ofText? cs = some v) :
    ∃ w, ofText? ds = some w ∧ Loses (cs.length - ds.length) v w := by
  obtain ⟨rest, hreads, hrest⟩ := ofText?_eq_some_iff.mp h
  have hlength := hds.sublist.length_le
  have hstage : StageLoses name (cs.length - ds.length) ⟨.value, [], cs⟩ ⟨.value, [], ds⟩ :=
    .mk .value .nil hds (by omega)
  obtain ⟨w, hw, hloses⟩ := hstage.reads hname hreads hrest
  exact ⟨w, ofText?_eq_some_iff.mpr ⟨rest, hw, hrest⟩, hloses⟩

end Montage.Json.Source
