import Montage.Disk.Path
import Montage.Proofs.Text.Words

/-! The names along joined paths. -/
namespace Montage

/-- What can stand between two slashes. -/
def IsStep (step : String) : Prop :=
  step ≠ "" ∧ '/' ∉ step.toList

namespace Path

variable {base p : Path} {name : String} {names : List String}

theorem steps_append (a b : String) : steps ⟨a ++ "/" ++ b⟩ = steps ⟨a⟩ ++ steps ⟨b⟩ := by
  have htext : (a ++ "/" ++ b).toList = a.toList ++ '/' :: b.toList := by
    simp [String.toList_append]
  rw [steps, htext, Text.splitOn_append (by simp), List.map_append, List.filter_append]
  rfl

theorem steps_empty : steps ⟨""⟩ = [] := by
  decide

theorem steps_of_isStep (h : IsStep name) : steps ⟨name⟩ = [name] := by
  rw [steps, Text.splitOn_of_no_mark fun c hc => decide_eq_false fun hslash : c = '/' =>
    h.2 (hslash ▸ hc)]
  simp [h.1]

theorem isStep_of_mem_steps (h : name ∈ p.steps) : IsStep name := by
  obtain ⟨hmem, hname⟩ := List.mem_filter.mp h
  obtain ⟨piece, hpiece, rfl⟩ := List.mem_map.mp hmem
  refine ⟨of_decide_eq_true hname, fun hslash => ?_⟩
  rw [String.toList_ofList] at hslash
  simpa using Text.not_isMark_of_mem_splitOn hpiece hslash

theorem exists_of_endsInSlash (h : p.endsInSlash = true) : ∃ a, p.text = a ++ "/" := by
  obtain ⟨init, hinit⟩ := List.getLast?_eq_some_iff.mp (of_decide_eq_true h)
  exact ⟨String.ofList init, String.toList_inj.mp (by simp [hinit])⟩

theorem join_eq (hbase : base.text ≠ "") (hp : p.isAbsolute = false) :
    base.join p =
      if base.endsInSlash then ⟨base.text ++ p.text⟩ else ⟨base.text ++ "/" ++ p.text⟩ := by
  rw [join, if_neg]
  simp [hp, hbase]

/-- The names of a joined path are those of its parts. -/
theorem steps_join (hbase : base.text ≠ "") (hp : p.isAbsolute = false) :
    (base.join p).steps = base.steps ++ p.steps := by
  rw [join_eq hbase hp]
  split
  · rename_i hslash
    obtain ⟨a, ha⟩ := exists_of_endsInSlash hslash
    have hsteps : base.steps = steps ⟨a⟩ := by
      have hcut := steps_append a ""
      rw [String.append_empty, ← ha, steps_empty, List.append_nil] at hcut
      exact hcut
    rw [ha, steps_append, hsteps]
  · exact steps_append base.text p.text

theorem isAbsolute_join (hbase : base.text ≠ "") (hp : p.isAbsolute = false) :
    (base.join p).isAbsolute = base.isAbsolute := by
  have hhead (rest : List Char) : (base.text.toList ++ rest).head? = base.text.toList.head? := by
    cases hchars : base.text.toList with
    | nil => exact absurd (String.toList_eq_nil_iff.mp hchars) hbase
    | cons => rfl
  rw [join_eq hbase hp]
  split
  · simp only [isAbsolute, String.toList_append, hhead]
  · simp only [isAbsolute, String.toList_append, List.append_assoc, hhead]

theorem endsInSlash_join (hbase : base.text ≠ "") (hp : p.isAbsolute = false)
    (htext : p.text ≠ "") :
    (base.join p).endsInSlash = p.endsInSlash := by
  have hlast (front : List Char) :
      (front ++ p.text.toList).getLast? = p.text.toList.getLast? := by
    cases hchars : p.text.toList.getLast? with
    | none => exact absurd (String.toList_eq_nil_iff.mp (List.getLast?_eq_none_iff.mp hchars)) htext
    | some c => rw [List.getLast?_append, hchars]; rfl
  rw [join_eq hbase hp]
  split <;> simp only [endsInSlash, String.toList_append, hlast]

theorem isAbsolute_of_isStep (h : IsStep name) : isAbsolute ⟨name⟩ = false := by
  refine decide_eq_false fun hhead => h.2 ?_
  exact List.mem_of_mem_head? hhead

theorem endsInSlash_of_isStep (h : IsStep name) : endsInSlash ⟨name⟩ = false := by
  refine decide_eq_false fun hlast => h.2 ?_
  exact List.mem_of_getLast? hlast

/-- Names put together to a path are the names along it. -/
theorem steps_ofNames {absolute : Bool} (h : ∀ name ∈ names, IsStep name) :
    (ofNames absolute names).steps = names := by
  have hrest : steps ⟨"/".intercalate names⟩ = names := by
    induction names with
    | nil => exact steps_empty
    | cons first rest ih =>
      have hfirst := h first List.mem_cons_self
      cases rest with
      | nil => exact steps_of_isStep hfirst
      | cons second rest =>
        rw [String.intercalate_cons_cons, steps_append, steps_of_isStep hfirst,
          ih fun name hname => h name (List.mem_cons_of_mem first hname)]
        rfl
  rw [ofNames]
  cases absolute with
  | false =>
    simp only [if_neg Bool.false_ne_true, String.empty_append]
    exact hrest
  | true =>
    have hcut := steps_append "" ("/".intercalate names)
    rw [String.empty_append, steps_empty, List.nil_append] at hcut
    exact hcut.trans hrest

theorem isAbsolute_ofNames {absolute : Bool} (h : ∀ name ∈ names, IsStep name) :
    (ofNames absolute names).isAbsolute = absolute := by
  cases absolute with
  | true =>
    simp [ofNames, isAbsolute, String.toList_append]
  | false =>
    refine decide_eq_false fun hhead => ?_
    cases names with
    | nil => cases hhead
    | cons first rest =>
      have hfirst := h first List.mem_cons_self
      have hchars : first.toList ≠ [] := fun hnil => hfirst.1 (String.toList_eq_nil_iff.mp hnil)
      refine hfirst.2 (List.mem_of_mem_head? ?_)
      cases rest with
      | nil => simpa [ofNames] using hhead
      | cons second rest =>
        rw [ofNames, if_neg Bool.false_ne_true, String.empty_append, String.intercalate_cons_cons,
          String.toList_append, String.toList_append, List.append_assoc] at hhead
        cases hlist : first.toList with
        | nil => exact absurd hlist hchars
        | cons c cs => rw [hlist] at hhead; exact hhead

end Path

end Montage
