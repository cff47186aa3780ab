import Montage.Clip.Basic
import Montage.Proofs.Clip.Placement
import Montage.Proofs.Edit.Normal

/-! The attributes of a clip come from the first edit of each kind that covers it. -/
namespace Montage

variable {α : Type} [Scalar α]

/-- The clip shows what the edit says. Edits without an attribute say nothing. -/
def Clip.Carries (c : Clip α) : Edit α → Prop
  | .speed _ rate => c.rate = rate
  | .volume _ level => c.volume = level
  | .transform _ change => c.transform = if change.IsIdentity then none else some change
  | _ => True

/-- The clip shows nothing of an edit of the kind. -/
def Clip.CarriesNone (c : Clip α) : EditKind → Prop
  | .speed => c.rate = 1
  | .volume => c.volume = 1
  | .transform => c.transform = none
  | _ => True

/-- The window of the edit reaches over the clip, up to the slack of attributes. -/
def Edit.Covers (e : Edit α) (c : Clip α) : Prop :=
  ∃ r ∈ e.span?, r.Covers Clip.attributeSlack c.span

instance (e : Edit α) (c : Clip α) : Decidable (e.Covers c) :=
  inferInstanceAs (Decidable (∃ r ∈ e.span?, _))

namespace Clip

variable {edits : List (Edit α)} {kind : EditKind} {c d : Clip α} {e : Edit α}

theorem covering?_eq (kind : EditKind) (edits : List (Edit α)) (c : Clip α) :
    covering? kind edits c = edits.find? fun e => e.kind = kind ∧ e.Covers c := by
  unfold covering?
  congr 1
  funext e
  cases hspan : e.span? <;> simp [Edit.Covers, hspan]

theorem covering?_eq_some_iff : covering? kind edits c = some e ↔
    (e.kind = kind ∧ e.Covers c) ∧ ∃ before after, edits = before ++ e :: after ∧
      ∀ d ∈ before, ¬ (d.kind = kind ∧ d.Covers c) := by
  simp only [covering?_eq, List.find?_eq_some_iff_append, decide_eq_true_eq, Bool.not_eq_true',
    decide_eq_false_iff_not]

theorem covering?_eq_none_iff : covering? kind edits c = none ↔
    ∀ d ∈ edits, ¬ (d.kind = kind ∧ d.Covers c) := by
  simp only [covering?_eq, List.find?_eq_none, decide_eq_true_eq]

/-- The rate that a clip gets is one that it can be played at. -/
theorem effectiveRate_rateOf (edits : List (Edit α)) (c : Clip α) :
    effectiveRate (rateOf edits c) = rateOf edits c := by
  unfold rateOf
  split
  · exact Edit.effectiveRate_effectiveRate _
  · exact ite_self _

theorem carries_attach (h : covering? e.kind edits c = some e)
    (hrate : ∀ r rate, e = .speed r rate → effectiveRate rate = rate) :
    (attach edits c).Carries e := by
  cases e with
  | speed r rate =>
    have hfirst : covering? .speed edits c = some (.speed r rate) := h
    change rateOf edits c = rate
    simp [rateOf, shownEdit?, hfirst, hrate r rate rfl]
  | volume r level =>
    have hfirst : covering? .volume edits c = some (.volume r level) := h
    change volumeOf edits c = level
    rw [volumeOf, hfirst]
  | transform r change =>
    have hfirst : covering? .transform edits c = some (.transform r change) := h
    change transformOf edits c = _
    rw [transformOf, hfirst]
  | _ => trivial

theorem carriesNone_attach (h : covering? kind edits c = none) :
    (attach edits c).CarriesNone kind := by
  cases kind with
  | speed =>
    change rateOf edits c = 1
    rw [rateOf, shownEdit?, h, Option.none_or]
    -- A split may show in place of a speed, but it has no rate.
    split
    · rename_i r rate hsplit
      have hkind := (covering?_eq_some_iff.mp hsplit).1.1
      cases hkind
    · rfl
  | volume =>
    change volumeOf edits c = 1
    rw [volumeOf, h]
  | transform =>
    change transformOf edits c = none
    rw [transformOf, h]
  | _ => trivial

/-- Where a clip is placed is none of its attributes. -/
theorem attributes_of_unplaced (h : c.unplaced = d.unplaced) :
    c.rate = d.rate ∧ c.volume = d.volume ∧ c.transform = d.transform :=
  ⟨congrArg (·.rate) h, congrArg (·.volume) h, congrArg (·.transform) h⟩

theorem carries_congr (h : c.unplaced = d.unplaced) : c.Carries e ↔ d.Carries e := by
  obtain ⟨hrate, hvolume, htransform⟩ := attributes_of_unplaced h
  cases e <;> simp only [Carries, hrate, hvolume, htransform]

theorem carriesNone_congr (h : c.unplaced = d.unplaced) :
    c.CarriesNone kind ↔ d.CarriesNone kind := by
  obtain ⟨hrate, hvolume, htransform⟩ := attributes_of_unplaced h
  cases kind <;> simp only [CarriesNone, hrate, hvolume, htransform]

end Clip

end Montage
