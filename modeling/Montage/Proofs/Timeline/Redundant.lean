import Montage.Proofs.Clip.Attributes
import Montage.Proofs.Clip.Split
import Montage.Proofs.Timeline.EditOrder

/-! Edits that could be left out of a list. What an earlier copy of an edit has done to the clips, a
later one does not do again, and texts, fades and music do nothing to clips. -/
namespace Montage

/-- Acts on clips. The other kinds lie over the picture or under the sound. -/
def EditKind.ActsOnClips (kind : EditKind) : Prop :=
  kind ≠ .text ∧ kind ≠ .fade ∧ kind ≠ .music

instance (kind : EditKind) : Decidable kind.ActsOnClips :=
  inferInstanceAs (Decidable (_ ∧ _))

section Lists

variable {α : Type} {x : α} {first : List α}

theorem any_append_cons_of_mem (h : x ∈ first) (rest : List α) (p : α → Bool) :
    (first ++ x :: rest).any p = (first ++ rest).any p := by
  rw [List.any_append, List.any_append, List.any_cons]
  cases hx : p x with
  | false => rw [Bool.false_or]
  | true =>
    have hfirst : first.any p = true := List.any_eq_true.mpr ⟨x, h, hx⟩
    rw [hfirst, Bool.true_or, Bool.true_or]

/-- What a search finds in a list, it does not look for behind it. -/
theorem find?_append_cons_of_mem (h : x ∈ first) (rest : List α) (p : α → Bool) :
    (first ++ x :: rest).find? p = (first ++ rest).find? p := by
  rw [List.find?_append, List.find?_append]
  cases hfound : first.find? p with
  | some y => rfl
  | none =>
    have hx : ¬ p x = true := List.find?_eq_none.mp hfound x h
    rw [List.find?_cons_of_neg hx]

end Lists

/-! ### A second copy -/

section Copies

variable {α : Type} [Scalar α] {e : Edit α} {first : List (Edit α)}

theorem Clip.attach_of_copy (h : e ∈ first) (rest : List (Edit α)) :
    attach (first ++ e :: rest) = attach (first ++ rest) := by
  have hcovering (kind : EditKind) (c : Clip α) :
      covering? kind (first ++ e :: rest) c = covering? kind (first ++ rest) c :=
    find?_append_cons_of_mem h rest _
  funext c
  simp only [attach, rateOf, shownEdit?, volumeOf, transformOf, hcovering]

theorem Timeline.splitMargin_of_copy (h : e ∈ first) (rest : List (Edit α)) :
    splitMargin (first ++ e :: rest) = splitMargin (first ++ rest) := by
  rw [splitMargin, splitMargin, any_append_cons_of_mem h]

theorem Timeline.deleted_of_copy (h : e ∈ first) (rest : List (Edit α)) :
    deleted (first ++ e :: rest) = deleted (first ++ rest) := by
  funext c
  exact any_append_cons_of_mem h rest _

omit [Scalar α] in
theorem Edit.ofKind_append_cons {kind : EditKind} (h : e.kind ≠ kind)
    (first rest : List (Edit α)) :
    ofKind kind (first ++ e :: rest) = ofKind kind (first ++ rest) := by
  rw [ofKind, ofKind, List.filter_append, List.filter_append,
    List.filter_cons_of_neg (by simp [h])]

theorem Edit.points_cons (e : Edit α) (edits : List (Edit α)) :
    points (e :: edits) = points [e] ++ points edits := by
  simp [points]

theorem Edit.mem_points_of_mem_singleton {edits : List (Edit α)} {t : α} (h : e ∈ edits)
    (ht : t ∈ points [e]) : t ∈ points edits := by
  obtain ⟨d, hd, hend⟩ := mem_points.mp ht
  obtain rfl := List.mem_singleton.mp hd
  exact mem_points.mpr ⟨d, h, hend⟩

variable [LinearScalar α]

theorem Clip.splitAll_boundaries_of_copy {margin : α} (hm : 0 ≤ margin) (h : e ∈ first)
    (rest : List (Edit α)) (clips : List (Clip α)) :
    splitAll margin (Edit.boundaries (first ++ e :: rest)) clips =
      splitAll margin (Edit.boundaries (first ++ rest)) clips := by
  have hpoints : (Edit.points (first ++ e :: rest)).Perm
      (Edit.points [e] ++ Edit.points (first ++ rest)) := by
    rw [← Edit.points_cons]
    exact Edit.perm_points List.perm_middle
  exact splitAll_boundaries hm hpoints (fun t ht =>
    Edit.mem_points_of_mem_singleton (List.mem_append_left rest h) ht) clips

theorem Timeline.survivors_of_copy (h : e ∈ first) (rest : List (Edit α))
    (clips : List (Clip α)) :
    survivors (first ++ e :: rest) clips = survivors (first ++ rest) clips := by
  rw [survivors_eq, survivors_eq, retained, retained, splitMargin_of_copy h,
    Clip.splitAll_boundaries_of_copy (splitMargin_nonneg _) h, deleted_of_copy h,
    Clip.attach_of_copy h]

/-- A copy that acts on clips is not one of the edits that show over them. -/
theorem Timeline.ofClips_of_copy (h : e ∈ first) (hacts : e.kind.ActsOnClips)
    (rest : List (Edit α)) (clips : List (Clip α)) :
    ofClips (first ++ e :: rest) clips = ofClips (first ++ rest) clips := by
  obtain ⟨htext, hfade, hmusic⟩ := hacts
  have htexts : (first ++ e :: rest).filter (·.kind = .text) =
      (first ++ rest).filter (·.kind = .text) := Edit.ofKind_append_cons htext first rest
  have hfades : (first ++ e :: rest).filter (·.kind = .fade) =
      (first ++ rest).filter (·.kind = .fade) := Edit.ofKind_append_cons hfade first rest
  rw [ofClips, ofClips, survivors_of_copy h, htexts, hfades, ← filterMap_music?_ofKind,
    Edit.ofKind_append_cons hmusic, filterMap_music?_ofKind]

/-- Both copies become usable as the same edit, or neither does. -/
theorem Timeline.compile_of_copy (h : e ∈ first) (hacts : e.kind.ActsOnClips)
    (picks : List (Pick α)) (rest : List (Edit α)) (duration : α) :
    compile picks (first ++ e :: rest) duration = compile picks (first ++ rest) duration := by
  rw [compile, compile, Edit.normalized_append_cons, Edit.normalized, Edit.normalized,
    Edit.normalized, List.filterMap_append]
  cases hnormal : e.normal? (mediaLimit picks duration) with
  | none => rfl
  | some n =>
    have hmem : n ∈ Edit.normalized (mediaLimit picks duration) first :=
      Edit.mem_normalized.mpr ⟨e, h, hnormal⟩
    have hkind : n.kind.ActsOnClips := by
      rw [Edit.kind_of_normal? hnormal]
      exact hacts
    exact ofClips_of_copy hmem hkind _ _

end Copies

/-! ### Edits that do not act on clips -/

namespace Edit

variable {α : Type} {kinds : EditKind → Prop} {edits others : List (Edit α)}

/-- The second list is the first with edits of some kinds put in, anywhere. -/
inductive Inserted (kinds : EditKind → Prop) : List (Edit α) → List (Edit α) → Prop
  | nil : Inserted kinds [] []
  | keep {edits others : List (Edit α)} (e : Edit α) :
      Inserted kinds edits others → Inserted kinds (e :: edits) (e :: others)
  | insert {edits others : List (Edit α)} {e : Edit α} (hkind : kinds e.kind) :
      Inserted kinds edits others → Inserted kinds edits (e :: others)

/-- The edits that act on clips. -/
def acting (edits : List (Edit α)) : List (Edit α) :=
  edits.filter (·.kind.ActsOnClips)

/-- What looks at other kinds only does not see the edits that were put in. -/
theorem Inserted.filter_eq {p : EditKind → Bool} (h : Inserted kinds edits others)
    (hp : ∀ kind, kinds kind → p kind = false) :
    others.filter (p ·.kind) = edits.filter (p ·.kind) := by
  induction h with
  | nil => rfl
  | keep e _ ih => rw [List.filter_cons, List.filter_cons, ih]
  | insert hkind _ ih => rw [List.filter_cons_of_neg (by simp [hp _ hkind]), ih]

theorem Inserted.ofKind_eq {kind : EditKind} (h : Inserted kinds edits others)
    (hkind : ¬ kinds kind) : ofKind kind others = ofKind kind edits :=
  h.filter_eq (p := fun other => decide (other = kind)) fun _ hother =>
    decide_eq_false fun heq => hkind (heq ▸ hother)

theorem Inserted.acting_eq (h : Inserted kinds edits others)
    (hkinds : ∀ kind, kinds kind → ¬ kind.ActsOnClips) : acting others = acting edits :=
  h.filter_eq (p := fun kind => decide kind.ActsOnClips) fun kind hkind =>
    decide_eq_false (hkinds kind hkind)

variable [Scalar α]

theorem Inserted.normalized (h : Inserted kinds edits others) (limit : α) :
    Inserted kinds (normalized limit edits) (normalized limit others) := by
  induction h with
  | nil => exact Inserted.nil
  | @keep edits others e _ ih =>
    cases hnormal : e.normal? limit with
    | none =>
      rw [Edit.normalized, Edit.normalized, List.filterMap_cons_none hnormal,
        List.filterMap_cons_none hnormal]
      exact ih
    | some n =>
      rw [Edit.normalized, Edit.normalized, List.filterMap_cons_some hnormal,
        List.filterMap_cons_some hnormal]
      exact ih.keep n
  | @insert edits others e hkind _ ih =>
    cases hnormal : e.normal? limit with
    | none =>
      rw [Edit.normalized, Edit.normalized, List.filterMap_cons_none hnormal]
      exact ih
    | some n =>
      rw [Edit.normalized, Edit.normalized, List.filterMap_cons_some hnormal]
      exact ih.insert (kind_of_normal? hnormal ▸ hkind)

omit [Scalar α] in
theorem ends_of_not_acts {e : Edit α} (h : ¬ e.kind.ActsOnClips) : e.ends = [] := by
  cases e <;> first | rfl | exact absurd ⟨nofun, nofun, nofun⟩ h

theorem points_acting (edits : List (Edit α)) : points (acting edits) = points edits := by
  induction edits with
  | nil => rfl
  | cons e edits ih =>
    rw [points_cons, ← ih, acting, List.filter_cons]
    split
    · exact points_cons e _
    · rename_i hidle
      have hends := ends_of_not_acts (e := e) (by simpa using hidle)
      have hnone : points [e] = [] := by simp [points, hends]
      rw [hnone]
      rfl

end Edit

section Acting

variable {α : Type} [Scalar α]

theorem Clip.covering?_acting {kind : EditKind} (h : kind.ActsOnClips) (edits : List (Edit α))
    (c : Clip α) : covering? kind (Edit.acting edits) c = covering? kind edits c := by
  rw [covering?_eq, covering?_eq, Edit.acting, List.find?_filter]
  congr 1
  funext e
  by_cases hkind : e.kind = kind <;> simp [hkind, h]

theorem Clip.attach_acting (edits : List (Edit α)) : attach (Edit.acting edits) = attach edits := by
  funext c
  have hspeed : EditKind.speed.ActsOnClips := by decide
  have hsplit : EditKind.split.ActsOnClips := by decide
  have hvolume : EditKind.volume.ActsOnClips := by decide
  have htransform : EditKind.transform.ActsOnClips := by decide
  simp only [attach, rateOf, shownEdit?, volumeOf, transformOf, covering?_acting hspeed,
    covering?_acting hsplit, covering?_acting hvolume, covering?_acting htransform]

theorem Timeline.splitMargin_acting (edits : List (Edit α)) :
    splitMargin (Edit.acting edits) = splitMargin edits := by
  have hdelete : EditKind.delete.ActsOnClips := by decide
  have hany : (Edit.acting edits).any (·.kind = .delete) = edits.any (·.kind = .delete) := by
    rw [Edit.acting, List.any_filter]
    congr 1
    funext e
    by_cases hkind : e.kind = .delete <;> simp [hkind, hdelete]
  rw [splitMargin, splitMargin, hany]

theorem Timeline.deleted_acting (edits : List (Edit α)) :
    deleted (Edit.acting edits) = deleted edits := by
  funext c
  rw [deleted, deleted, Edit.acting, List.any_filter]
  congr 1
  funext e
  cases e <;> rfl

/-- Clips are made from the edits that act on them. -/
theorem Timeline.survivors_acting (edits : List (Edit α)) (clips : List (Clip α)) :
    survivors (Edit.acting edits) clips = survivors edits clips := by
  rw [survivors_eq, survivors_eq, retained, retained, splitMargin_acting, Edit.boundaries_eq,
    Edit.boundaries_eq, Edit.points_acting, deleted_acting, Clip.attach_acting]

end Acting

namespace Timeline

/-- Each step that makes the clips, and each overlay, sees as many edits as before. -/
theorem ofClips_of_inserted {α : Type} [Scalar α] {kinds : EditKind → Prop}
    {edits others : List (Edit α)} (h : Edit.Inserted kinds edits others)
    (hkinds : ∀ kind, kinds kind → ¬ kind.ActsOnClips) (clips : List (Clip α)) :
    (ofClips others clips).clips = (ofClips edits clips).clips ∧
      (ofClips others clips).total = (ofClips edits clips).total ∧
      (¬ kinds .text → (ofClips others clips).texts = (ofClips edits clips).texts) ∧
      (¬ kinds .fade → (ofClips others clips).fades = (ofClips edits clips).fades) ∧
      (¬ kinds .music → (ofClips others clips).music = (ofClips edits clips).music) := by
  have hsurvivors : survivors others clips = survivors edits clips := by
    rw [← survivors_acting, h.acting_eq hkinds, survivors_acting]
  simp only [ofClips, hsurvivors, true_and]
  refine ⟨fun htext => ?_, fun hfade => ?_, fun hmusic => ?_⟩
  · exact congrArg (List.filterMap _) (h.ofKind_eq htext)
  · exact congrArg (List.filterMap _) (h.ofKind_eq hfade)
  · rw [← filterMap_music?_ofKind, h.ofKind_eq hmusic, filterMap_music?_ofKind]

/-- A second copy of an edit that acts on clips leaves the timeline as it is, wherever it stands
behind the first. Texts, fades and music leave the clips and the length of the timeline as they are,
and whatever is of a kind of which none was put in. -/
theorem compile_of_redundant (picks : List (Pick Binary64)) (duration : Binary64) :
    (∀ (first rest : List (Edit Binary64)) (e : Edit Binary64), e ∈ first → e.kind.ActsOnClips →
      compile picks (first ++ e :: rest) duration = compile picks (first ++ rest) duration) ∧
    ∀ (kinds : EditKind → Prop) (edits others : List (Edit Binary64)),
      (∀ kind, kinds kind → ¬ kind.ActsOnClips) → Edit.Inserted kinds edits others →
      let S := compile picks edits duration
      let T := compile picks others duration
      T.clips = S.clips ∧ T.total = S.total ∧ (¬ kinds .text → T.texts = S.texts) ∧
        (¬ kinds .fade → T.fades = S.fades) ∧ (¬ kinds .music → T.music = S.music) := by
  constructor
  · intro first rest e h hacts
    exact compile_of_copy h hacts picks rest duration
  · intro kinds edits others hkinds h
    exact ofClips_of_inserted (h.normalized (mediaLimit picks duration)) hkinds _

/-- A delete that is asked for twice, and a text without words and a fade without length among a
speed, a text and music. -/
theorem compile_of_redundant_delete :
    let picks : List (Pick Binary64) := [.over ⟨0, 30⟩]
    let fast : Edit Binary64 := .speed ⟨0, 10⟩ 2
    let drop : Edit Binary64 := .delete ⟨10, 20⟩
    let title : Edit Binary64 := .text ⟨2, 5⟩ "title" .top
    let blank : Edit Binary64 := .text ⟨3, 12⟩ "" .center
    let cut : Edit Binary64 := .fade ⟨4, 4⟩ .fadeIn
    let tune : Edit Binary64 := .music "calm" 0.5
    let kinds : EditKind → Prop := fun kind => kind = .text ∨ kind = .fade
    let S := compile picks [fast, title, tune] 30
    let T := compile picks [blank, fast, cut, title, blank, tune] 30
    compile picks [drop, fast, drop, title] 30 = compile picks [drop, fast, title] 30 ∧
      Edit.Inserted kinds [fast, title, tune] [blank, fast, cut, title, blank, tune] ∧
      T.clips = S.clips ∧ T.total = S.total ∧ T.music = S.music := by
  intro picks fast drop title blank cut tune kinds S T
  obtain ⟨hcopy, hinserted⟩ := compile_of_redundant picks 30
  have hkinds : ∀ kind, kinds kind → ¬ kind.ActsOnClips := by
    rintro kind (rfl | rfl) <;> decide
  have hput : Edit.Inserted kinds [fast, title, tune] [blank, fast, cut, title, blank, tune] :=
    .insert (Or.inl rfl) <| .keep fast <| .insert (Or.inr rfl) <| .keep title <|
      .insert (Or.inl rfl) <| .keep tune .nil
  have hmusic : ¬ kinds .music := by decide
  obtain ⟨hclips, htotal, -, -, htunes⟩ := hinserted kinds _ _ hkinds hput
  exact ⟨hcopy [drop, fast] [title] drop (by simp) (by decide), hput, hclips, htotal,
    htunes hmusic⟩

end Timeline

end Montage
