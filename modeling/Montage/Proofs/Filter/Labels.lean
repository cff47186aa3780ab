import Montage.Filter.Basic
import Montage.Filter.Graph
import Montage.Proofs.Filter.Wiring
import Montage.Proofs.Number.Printed

/-! The pads that a written graph names: whatever stands between brackets. No filter is written with
a bracket, so these are the pads of the stages. -/
namespace Montage

/-! ### Reading -/

namespace Label

/-- The labels of a text, each from an opening bracket to the next closing one. -/
def labels : List Char → List String
  | [] => []
  | c :: rest =>
    if c = '[' then String.ofList (rest.takeWhile (· ≠ ']')) :: labels rest else labels rest

def ofText (text : String) : List String :=
  labels text.toList

/-- Nothing in the text is taken for a bracket. -/
def IsPlain (text : String) : Prop :=
  ∀ c ∈ text.toList, c ≠ '[' ∧ c ≠ ']'

variable {cs rest : List Char} {label text : String}

theorem labels_of_no_bracket (h : '[' ∉ cs) : labels (cs ++ rest) = labels rest := by
  induction cs with
  | nil => rfl
  | cons c cs ih =>
    have hc : c ≠ '[' := fun hc => h (hc ▸ List.mem_cons_self)
    have hcs := ih fun hmem => h (List.mem_cons_of_mem c hmem)
    rw [List.cons_append, labels, if_neg hc, hcs]

theorem labels_pad (h : IsPlain label) :
    labels ((Stage.pad label).toList ++ rest) = label :: labels rest := by
  have hpad : (Stage.pad label).toList ++ rest = '[' :: (label.toList ++ ']' :: rest) := by
    simp [Stage.pad]
  have hall : ∀ c ∈ label.toList, decide (c ≠ ']') = true := fun c hc => decide_eq_true (h c hc).2
  have hend : '[' ∉ label.toList ++ [']'] := by
    intro hmem
    rcases List.mem_append.mp hmem with hmem | hmem
    · exact (h _ hmem).1 rfl
    · simp at hmem
  rw [hpad, labels, if_pos rfl, List.takeWhile_append_of_pos hall]
  have hrest : labels (label.toList ++ [']'] ++ rest) = labels rest := labels_of_no_bracket hend
  rw [List.append_assoc, List.singleton_append] at hrest
  simp [hrest]

theorem labels_pads {pads : List String} (h : ∀ label ∈ pads, IsPlain label) :
    labels ((String.join (pads.map Stage.pad)).toList ++ rest) = pads ++ labels rest := by
  rw [String.toList_join]
  induction pads with
  | nil => rfl
  | cons label pads ih =>
    rw [List.map_cons, List.flatMap_cons, List.append_assoc,
      labels_pad (h label List.mem_cons_self),
      ih fun other hmem => h other (List.mem_cons_of_mem label hmem)]
    rfl

end Label

/-! ### Filters -/

theorem not_isNumberChar_bracket : ¬ IsNumberChar '[' := by
  simp [IsNumberChar]

theorem Decimal.isNumberChar_of_mem_natural {c : Char} {n : Nat} (h : c ∈ (natural n).toList) :
    IsNumberChar c := by
  rw [natural, String.toList_ofList] at h
  exact Or.inl (isDigit_of_mem_digits h)

theorem Filter.no_bracket_print (f : Filter Binary64) : '[' ∉ f.print.toList := by
  have hfixed (places : Nat) (x : Binary64) : '[' ∉ (Scalar.fixed places x).toList :=
    fun h => not_isNumberChar_bracket (Scalar.isNumberChar_of_mem_fixed h)
  have hseconds (x : Binary64) : '[' ∉ (Scalar.seconds x).toList :=
    fun h => not_isNumberChar_bracket (Scalar.isNumberChar_of_mem_seconds h)
  have hshortest (x : Binary64) : '[' ∉ (Scalar.shortest x).toList :=
    fun h => not_isNumberChar_bracket (Scalar.isNumberChar_of_mem_shortest h)
  have hnatural (n : Nat) : '[' ∉ (Decimal.natural n).toList :=
    fun h => not_isNumberChar_bracket (Decimal.isNumberChar_of_mem_natural h)
  have hname (direction : FadeDirection) : '[' ∉ direction.name.toList := by
    cases direction <;> decide
  cases f <;> (delta Filter.print; dsimp only) <;>
    simp [printSpan, printSize, printFade, printMiddle, hfixed, hseconds, hshortest, hnatural,
      hname]

/-! ### Stages and graphs -/

open Label (IsPlain labels)

theorem Stage.no_bracket_filters (filters : List (Filter Binary64)) :
    '[' ∉ (",".intercalate (filters.map Filter.print)).toList := by
  induction filters with
  | nil => simp
  | cons f rest ih =>
    cases rest with
    | nil => simpa using f.no_bracket_print
    | cons g rest =>
      rw [List.map_cons, List.map_cons, String.intercalate_cons_cons, String.toList_append,
        String.toList_append]
      simp [f.no_bracket_print]
      simpa using ih

theorem Stage.labels_render {s : Stage (Filter Binary64)} {rest : List Char}
    (hinputs : ∀ label ∈ s.inputs, IsPlain label) (houtputs : ∀ label ∈ s.outputs, IsPlain label) :
    labels ((s.render Filter.print).toList ++ rest) = s.inputs ++ s.outputs ++ labels rest := by
  rw [render, String.toList_append, String.toList_append, List.append_assoc, List.append_assoc,
    Label.labels_pads hinputs, Label.labels_of_no_bracket (no_bracket_filters _),
    Label.labels_pads houtputs, List.append_assoc]

/-- The labels of a written graph are the pads of its stages. -/
theorem Graph.labels_render (g : Graph (Filter Binary64))
    (h : ∀ s ∈ g.stages, ∀ label ∈ s.inputs ++ s.outputs, IsPlain label) :
    Label.ofText (g.render Filter.print) = g.stages.flatMap fun s => s.inputs ++ s.outputs := by
  rw [Label.ofText, render]
  generalize g.stages = stages at h
  induction stages with
  | nil => rfl
  | cons s rest ih =>
    have hs := h s List.mem_cons_self
    have hrest := ih fun r hr => h r (List.mem_cons_of_mem s hr)
    have hinputs := fun label hlabel => hs label (List.mem_append_left _ hlabel)
    have houtputs := fun label hlabel => hs label (List.mem_append_right _ hlabel)
    cases rest with
    | nil =>
      have hone : labels ((s.render Filter.print).toList ++ []) = _ :=
        Stage.labels_render hinputs houtputs
      simpa [Label.labels] using hone
    | cons r rest =>
      rw [List.map_cons, List.map_cons, String.intercalate_cons_cons, String.toList_append,
        String.toList_append, List.append_assoc, Stage.labels_render hinputs houtputs,
        Label.labels_of_no_bracket (by decide), List.flatMap_cons, ← hrest]
      rfl

end Montage
