import Montage.Proofs.Clip.Cuts
import Montage.Proofs.Number.RationalText
import Montage.Proofs.Timeline.Order

/-! The clips of a timeline keep names of their own. A piece is named for the two decimals of its
ends, so that pieces can only share a name where they start within a hundredth of each other, and
the split margin keeps them further apart than that. -/
namespace Montage

/-- The name begins as the names of pieces do. -/
def IsPieceName (name : String) : Prop :=
  "split-".toList <+: name.toList

instance (name : String) : Decidable (IsPieceName name) :=
  inferInstanceAs (Decidable (_ <+: _))

theorem isPieceName_append (rest : String) : IsPieceName ("split-" ++ rest) := by
  rw [IsPieceName, String.toList_append]
  exact List.prefix_append _ _

namespace Span

theorem toList_id {α : Type} [Scalar α] (s : Span α) :
    s.id.toList = Decimal.fixedChars 2 (Scalar.reading s.start) ++
      '-' :: Decimal.fixedChars 2 (Scalar.reading s.stop) := by
  simp [Span.id, Decimal.fixed]

theorem not_isPieceName_id {α : Type} [Scalar α] (s : Span α) : ¬ IsPieceName s.id := by
  intro h
  obtain ⟨first, more, hcons⟩ :=
    List.exists_cons_of_ne_nil (Decimal.fixedChars_ne_nil 2 (Scalar.reading s.start))
  have hnumber : IsNumberChar first :=
    Decimal.isNumberChar_of_mem_fixedChars (hcons ▸ List.mem_cons_self)
  rw [IsPieceName, toList_id, hcons, List.cons_append] at h
  obtain rfl : 's' = first := (List.cons_prefix_cons.mp h).1
  exact absurd hnumber (by simp [IsNumberChar])

theorem abs_start_sub_le {a b : Span Rat} (h : a.id = b.id) : |a.start - b.start| ≤ 1 / 100 := by
  have htext := congrArg String.toList h
  rw [toList_id, toList_id] at htext
  have hclose := Rational.abs_sub_le_of_fixedChars htext
  norm_num only at hclose ⊢
  exact hclose

end Span

namespace Clip

variable {margin : Rat} {points : List Rat} {clips : List (Clip Rat)} {d a b : Clip Rat}

/-- The clip was cut out of another: it is named for its span and longer than the margin. -/
structure IsPiece (margin : Rat) (d : Clip Rat) : Prop where
  id_eq : d.id = "split-" ++ d.span.id
  long : margin < d.span.stop - d.span.start

theorem mem_or_isPiece_of_mem_splitAll (hd : d ∈ splitAll margin points clips) :
    d ∈ clips ∨ d.IsPiece margin := by
  refine splitAll_induction (P := fun d => d ∈ clips ∨ d.IsPiece margin) ?_ (fun c => Or.inl) d hd
  intro c hc point d hd
  rcases mem_splitAt.mp hd with ⟨hsplits, hpiece⟩ | ⟨-, rfl⟩
  · refine Or.inr ⟨?_, lt_length_of_mem_splitAt hsplits hd⟩
    rcases hpiece with rfl | rfl <;> rfl
  · exact hc

/-- Pieces of one name would start so near to each other that neither is over before the other
starts. -/
theorem IsPiece.id_ne (hm : 1 / 100 ≤ margin) (ha : a.IsPiece margin) (hb : b.IsPiece margin)
    (hab : a.span.Apart b.span) : a.id ≠ b.id := by
  intro hid
  have hpos : 0 < margin := lt_of_lt_of_le (by norm_num) hm
  rw [ha.id_eq, hb.id_eq, String.append_right_inj] at hid
  have hstarts := abs_le.mp (Span.abs_start_sub_le hid)
  have hfa := ha.long
  have hfb := hb.long
  rcases Span.le_or_le_of_apart (sub_pos.mp (hpos.trans hfa)) (sub_pos.mp (hpos.trans hfb)) hab
    with h | h <;> linarith

/-- Cutting clips that are apart and named apart, not as pieces are, leaves clips that are named
apart, whatever the points. -/
theorem nodup_ids_splitAll (hm : 1 / 100 ≤ margin) (hclips : ∀ c ∈ clips, c.Measured)
    (hapart : clips.Pairwise fun a b => a.span.Apart b.span) (hids : (clips.map (·.id)).Nodup)
    (hnames : ∀ c ∈ clips, ¬ IsPieceName c.id) :
    ((splitAll margin points clips).map (·.id)).Nodup := by
  have hnonneg : 0 ≤ margin := le_trans (by norm_num) hm
  have hmixed : ∀ {c p : Clip Rat}, c ∈ clips → p.IsPiece margin → c.id ≠ p.id := by
    intro c p hc hp hid
    apply hnames c hc
    rw [hid, hp.id_eq]
    exact isPieceName_append _
  refine List.pairwise_map.mpr ((apart_splitAll hnonneg hclips hapart).imp_of_mem ?_)
  intro a b ha hb hab
  rcases mem_or_isPiece_of_mem_splitAll ha with ha | ha <;>
    rcases mem_or_isPiece_of_mem_splitAll hb with hb | hb
  · intro hid
    obtain rfl := List.inj_on_of_nodup_map hids ha hb hid
    have hforward := (hclips a ha).forward
    exact hab a.span.start ⟨⟨le_rfl, hforward⟩, le_rfl, hforward⟩
  · exact hmixed ha hb
  · exact (hmixed hb ha).symm
  · exact ha.id_ne hm hb hab

end Clip

namespace Timeline

variable {picks : List (Pick Rat)} {edits : List (Edit Rat)} {duration : Rat}

theorem nodup_ids_baseClips (limit : Rat) (h : (picks.map (·.id)).Nodup) :
    ((baseClips picks limit).map (·.id)).Nodup :=
  List.pairwise_map.mpr
    (pairwise_baseClips limit (List.pairwise_map.mpr (List.pairwise_map.mp h)))

theorem not_isPieceName_of_mem_baseClips {limit : Rat} {c : Clip Rat}
    (h : ∀ pick ∈ picks, ¬ IsPieceName pick.id) (hc : c ∈ baseClips picks limit) :
    ¬ IsPieceName c.id := by
  rcases eq_of_mem_baseClips hc with ⟨-, rfl⟩ | ⟨pick, hpick, -, rfl⟩
  · change ¬ IsPieceName "base-clip"
    decide
  · exact h pick hpick

theorem le_splitMargin (edits : List (Edit Rat)) : 1 / 100 ≤ splitMargin edits := by
  unfold splitMargin
  split <;> norm_num

/-- Deleting, attaching, sorting and placing name nothing anew. -/
theorem nodup_ids_clips (h : ((pieces picks edits duration).map (·.id)).Nodup) :
    ((compile picks edits duration).clips.map (·.id)).Nodup :=
  List.pairwise_map.mpr (pairwise_clips (f := (·.id)) (fun _ => rfl) (fun _ _ => rfl)
    (fun _ _ => Ne.symm) (List.pairwise_map.mp h))

/-- The clips of a timeline are named apart where the picks are and none of these has the name of a
piece. Segments never have such a name. -/
theorem clips_named_apart :
    (∀ (picks : List (Pick Rat)) (edits : List (Edit Rat)) (duration : Rat),
      picks.Pairwise (fun a b => a.span.Apart b.span) → (picks.map (·.id)).Nodup →
        (∀ pick ∈ picks, ¬ IsPieceName pick.id) →
          ((compile picks edits duration).clips.map (·.id)).Nodup) ∧
    ∀ (α : Type) [Scalar α] (span : Span α) (energy : α) (tags : Tags α),
      ¬ IsPieceName (Segment.new span energy tags).id := by
  refine ⟨fun picks edits duration hapart hids hnames => ?_, fun α _ span _ _ => ?_⟩
  · apply nodup_ids_clips
    exact Clip.nodup_ids_splitAll (le_splitMargin _) (fun c hc => measured_of_mem_baseClips hc)
      (apart_baseClips _ hapart) (nodup_ids_baseClips _ hids)
      fun c hc => not_isPieceName_of_mem_baseClips hnames hc
  · exact Span.not_isPieceName_id span

/-- Two picks that are cut, and a delete between the cuts. -/
theorem clips_named_apart_of_two_picks :
    let picks : List (Pick Rat) := [.over ⟨0, 10⟩, .over ⟨10, 15.004⟩]
    let edits : List (Edit Rat) := [.speed ⟨2, 4⟩ 2, .delete ⟨6, 12⟩]
    picks.Pairwise (fun a b => a.span.Apart b.span) ∧ (picks.map (·.id)).Nodup ∧
      (∀ pick ∈ picks, ¬ IsPieceName pick.id) ∧
        ((compile picks edits 60).clips.map (·.id)).Nodup := by
  intro picks edits
  have hapart : picks.Pairwise fun a b => a.span.Apart b.span :=
    List.pairwise_pair.mpr (Span.apart_of_le le_rfl)
  have hids : (picks.map (·.id)).Nodup := by decide +kernel
  have hnames : ∀ pick ∈ picks, ¬ IsPieceName pick.id := by decide +kernel
  exact ⟨hapart, hids, hnames, clips_named_apart.1 picks edits 60 hapart hids hnames⟩

end Timeline

end Montage
