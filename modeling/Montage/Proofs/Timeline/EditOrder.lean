import Montage.Number.Floating
import Montage.Proofs.Edit.Normal
import Montage.Proofs.Number.Binary64
import Montage.Proofs.Timeline.Pieces

/-! How edits of different kinds are interleaved does not show, and no order of edits moves a cut.
Cutting and deleting only ask which edits there are; every later step reads one kind at a time. -/
namespace Montage

namespace Edit

variable {α : Type} {edits others : List (Edit α)} {kind : EditKind}

/-- The edits of one kind, in their order. -/
def ofKind (kind : EditKind) (edits : List (Edit α)) : List (Edit α) :=
  edits.filter (·.kind = kind)

/-- The lists hold the same edits of each kind in the same order. -/
def SameByKind (edits others : List (Edit α)) : Prop :=
  ∀ kind, ofKind kind edits = ofKind kind others

theorem SameByKind.perm (h : SameByKind edits others) : edits.Perm others := by
  classical
  refine List.perm_iff_count.mpr fun e => ?_
  have hown (es : List (Edit α)) : (ofKind e.kind es).count e = es.count e :=
    List.count_filter (by simp)
  rw [← hown edits, ← hown others, h]

variable [Scalar α]

/-- Making edits usable keeps kinds apart. -/
theorem ofKind_normalized (limit : α) (edits : List (Edit α)) :
    ofKind kind (normalized limit edits) = normalized limit (ofKind kind edits) := by
  rw [ofKind, ofKind, normalized, normalized, List.filter_filterMap, List.filterMap_filter]
  refine List.filterMap_congr fun raw _ => ?_
  cases hnormal : raw.normal? limit with
  | none => simp
  | some e => simp [Option.filter, kind_of_normal? hnormal]

theorem SameByKind.normalized (h : SameByKind edits others) (limit : α) :
    SameByKind (normalized limit edits) (normalized limit others) := by
  intro kind
  rw [ofKind_normalized, ofKind_normalized, h kind]

theorem perm_normalized (h : edits.Perm others) (limit : α) :
    (normalized limit edits).Perm (normalized limit others) :=
  h.filterMap _

theorem perm_points (h : edits.Perm others) : (points edits).Perm (points others) :=
  ((h.flatMap_right ends).filter _).map _

theorem boundaries_of_perm [LinearScalar α] (h : edits.Perm others) :
    boundaries edits = boundaries others := by
  rw [boundaries_eq, boundaries_eq, Scalar.mergeSort_eq_of_perm (perm_points h)]

end Edit

namespace Clip

variable {α : Type} [Scalar α] {edits others : List (Edit α)} {kind : EditKind} {c : Clip α}

/-- Where a clip comes from: its name, its span and its length. -/
def cut (c : Clip α) : String × Span α × α :=
  (c.id, c.span, c.duration)

theorem covering?_ofKind (kind : EditKind) (edits : List (Edit α)) (c : Clip α) :
    covering? kind (Edit.ofKind kind edits) c = covering? kind edits c := by
  rw [covering?, covering?, Edit.ofKind, List.find?_filter]
  congr 1
  funext e
  by_cases hkind : e.kind = kind <;> simp [hkind]

theorem map_cut_inMediaOrder (clips : List (Clip α)) :
    (inMediaOrder clips).map cut =
      (clips.map cut).mergeSort fun a b => Scalar.precedes a.2.1.start b.2.1.start :=
  List.map_mergeSort fun _ _ _ _ => rfl

theorem attach_of_sameByKind (h : Edit.SameByKind edits others) (c : Clip α) :
    attach edits c = attach others c := by
  have hcovering (kind : EditKind) : covering? kind edits c = covering? kind others c := by
    rw [← covering?_ofKind, h kind, covering?_ofKind]
  simp only [attach, rateOf, shownEdit?, volumeOf, transformOf, hcovering]

end Clip

namespace Timeline

variable {α : Type} [Scalar α] {picks : List (Pick α)} {edits others : List (Edit α)}
  {duration : α}

theorem splitMargin_of_perm (h : edits.Perm others) : splitMargin edits = splitMargin others := by
  rw [splitMargin, splitMargin, h.any_eq]

theorem deleted_of_perm (h : edits.Perm others) : deleted edits = deleted others := by
  funext c
  exact h.any_eq

omit [Scalar α] in
theorem filterMap_music?_ofKind (edits : List (Edit α)) :
    (Edit.ofKind .music edits).filterMap music? = edits.filterMap music? := by
  rw [Edit.ofKind, List.filterMap_filter]
  refine List.filterMap_congr fun e _ => ?_
  cases e <;> rfl

/-- The clips by where they come from, before they are told apart by their attributes. -/
theorem map_cut_compile (picks : List (Pick α)) (edits : List (Edit α)) (duration : α) :
    (compile picks edits duration).clips.map Clip.cut =
      (((pieces picks edits duration).filter
        (!deleted (usable picks edits duration) ·)).map Clip.cut).mergeSort
          fun a b => Scalar.precedes a.2.1.start b.2.1.start := by
  have hunplaced := congrArg (List.map Clip.cut) (unplaced_compile picks edits duration)
  rw [List.map_map, List.map_map] at hunplaced
  have hcut : Clip.cut ∘ Clip.unplaced = Clip.cut (α := α) := rfl
  rw [hcut, Clip.map_cut_inMediaOrder, retained, List.map_map] at hunplaced
  exact hunplaced

variable [LinearScalar α]

theorem pieces_of_perm (h : (usable picks edits duration).Perm (usable picks others duration)) :
    pieces picks edits duration = pieces picks others duration := by
  simp only [pieces, splitMargin_of_perm h, Edit.boundaries_of_perm h]

theorem cuts_of_perm (h : edits.Perm others) :
    (compile picks edits duration).clips.map Clip.cut =
      (compile picks others duration).clips.map Clip.cut := by
  have husable := Edit.perm_normalized h (mediaLimit picks duration)
  rw [map_cut_compile, map_cut_compile, pieces_of_perm husable, usable, usable,
    deleted_of_perm husable]

theorem ofClips_of_sameByKind (h : Edit.SameByKind edits others) (clips : List (Clip α)) :
    ofClips edits clips = ofClips others clips := by
  have hattach : Clip.attach edits = Clip.attach others := by
    funext c
    exact Clip.attach_of_sameByKind h c
  have hsurvivors : survivors edits clips = survivors others clips := by
    rw [survivors_eq, survivors_eq, retained, retained, splitMargin_of_perm h.perm,
      Edit.boundaries_of_perm h.perm, deleted_of_perm h.perm, hattach]
  have htexts : edits.filter (·.kind = .text) = others.filter (·.kind = .text) := h .text
  have hfades : edits.filter (·.kind = .fade) = others.filter (·.kind = .fade) := h .fade
  have hmusic : edits.filterMap music? = others.filterMap music? := by
    rw [← filterMap_music?_ofKind, h .music, filterMap_music?_ofKind]
  rw [ofClips, ofClips, hsurvivors, htexts, hfades, hmusic]

/-- Edits of different kinds may be interleaved in any way, and edits of one kind that change places
cut the same clips. -/
theorem compile_of_reordered (picks : List (Pick Binary64)) (edits others : List (Edit Binary64))
    (duration : Binary64) :
    (Edit.SameByKind edits others → compile picks edits duration = compile picks others duration) ∧
    (edits.Perm others →
      (compile picks edits duration).clips.map Clip.cut =
        (compile picks others duration).clips.map Clip.cut) := by
  refine ⟨fun h => ?_, cuts_of_perm⟩
  rw [compile, compile]
  exact ofClips_of_sameByKind (h.normalized _) _

/-- A speed before or after a delete, and then two speeds that change places. -/
theorem compile_of_reordered_speed :
    let picks : List (Pick Binary64) := [.over ⟨0, 30⟩]
    let slow : Edit Binary64 := .speed ⟨0, 10⟩ 0.5
    let fast : Edit Binary64 := .speed ⟨0, 10⟩ 2
    let drop : Edit Binary64 := .delete ⟨10, 20⟩
    Edit.SameByKind [slow, drop] [drop, slow] ∧
      compile picks [slow, drop] 30 = compile picks [drop, slow] 30 ∧
      [slow, fast, drop].Perm [drop, fast, slow] ∧
      (compile picks [slow, fast, drop] 30).clips.map Clip.cut =
        (compile picks [drop, fast, slow] 30).clips.map Clip.cut := by
  intro picks slow fast drop
  have hkinds : Edit.SameByKind [slow, drop] [drop, slow] := by
    intro kind
    cases kind <;> rfl
  have hperm : [slow, fast, drop].Perm [drop, fast, slow] :=
    (List.reverse_perm [drop, fast, slow]).trans (List.Perm.refl _)
  exact ⟨hkinds, (compile_of_reordered picks [slow, drop] [drop, slow] 30).1 hkinds, hperm,
    (compile_of_reordered picks [slow, fast, drop] [drop, fast, slow] 30).2 hperm⟩

end Timeline

end Montage
