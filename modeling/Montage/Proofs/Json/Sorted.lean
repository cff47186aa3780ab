import Mathlib.Data.List.Nodup
import Mathlib.Data.String.Basic
import Montage.Json.Members

/-! Sorting the fields of a value does not change what is read from it by name. -/
namespace Montage.Json

variable {α : Type} {field : String × Json} {fields done : List (String × Json)} {name : String}
  {j : Json} {m m' : Members} {read : Json → Option α}

/-! ### Fields in the order of their names -/

theorem lookup_cons (field : String × Json) (fields : List (String × Json)) (name : String) :
    (field :: fields).lookup name =
      if name = field.1 then some field.2 else fields.lookup name := by
  obtain ⟨key, j⟩ := field
  rw [List.lookup_cons]
  by_cases hname : name = key
  · rw [if_pos hname, beq_iff_eq.mpr hname]
  · rw [if_neg hname, beq_eq_false_iff_ne.mpr hname]

theorem lookup_insertField (field : String × Json) (fields : List (String × Json)) (name : String) :
    (insertField field fields).lookup name =
      if name = field.1 then some field.2 else fields.lookup name := by
  induction fields with
  | nil => rw [insertField, lookup_cons]
  | cons other fields ih =>
    rw [insertField, lookup_cons other fields]
    split
    · rename_i hsame
      rw [lookup_cons, hsame]
      split <;> rfl
    split
    · rw [lookup_cons, lookup_cons]
    · rename_i hsame hless
      rw [lookup_cons, ih]
      split
      · rename_i hother
        rw [if_neg fun hfield => hsame (hfield.symm.trans hother)]
      · rfl

theorem mem_insertField {other : String × Json} (h : other ∈ insertField field fields) :
    other = field ∨ other ∈ fields := by
  induction fields with
  | nil => exact .inl (List.mem_singleton.mp h)
  | cons first fields ih =>
    rw [insertField] at h
    split at h
    · exact (List.mem_cons.mp h).imp_right fun hmem => List.mem_cons_of_mem first hmem
    split at h
    · exact List.mem_cons.mp h
    · rcases List.mem_cons.mp h with rfl | h
      · exact .inr List.mem_cons_self
      · exact (ih h).imp_right fun hmem => List.mem_cons_of_mem first hmem

/-- The names rise, so that none stands twice. -/
def Rises (fields : List (String × Json)) : Prop :=
  fields.Pairwise fun field other => field.1 < other.1

theorem Rises.insertField (h : Rises fields) (field : String × Json) :
    Rises (insertField field fields) := by
  induction fields with
  | nil => exact List.pairwise_singleton _ field
  | cons other fields ih =>
    obtain ⟨hother, hfields⟩ := List.pairwise_cons.mp h
    rw [Json.insertField]
    split
    · rename_i hsame
      exact List.pairwise_cons.mpr ⟨fun f hf => hsame ▸ hother f hf, hfields⟩
    split
    · rename_i hless
      refine List.pairwise_cons.mpr ⟨?_, h⟩
      intro f hf
      rcases List.mem_cons.mp hf with rfl | hf
      · exact hless
      · exact hless.trans (hother f hf)
    · rename_i hsame hless
      have hgreater : other.1 < field.1 :=
        lt_of_le_of_ne (not_lt.mp hless) (Ne.symm hsame)
      refine List.pairwise_cons.mpr ⟨?_, ih hfields⟩
      intro f hf
      rcases mem_insertField hf with rfl | hf
      · exact hgreater
      · exact hother f hf

theorem Rises.sortedFields (hdone : Rises done) (fields : List (String × Json)) :
    Rises (sortedFields fields done) := by
  induction fields generalizing done with
  | nil => exact hdone
  | cons field fields ih => exact ih (hdone.insertField _)

/-- With no name twice, the first field of a name is the last. -/
theorem Rises.lookup_reverse (h : Rises fields) (name : String) :
    fields.reverse.lookup name = fields.lookup name := by
  induction fields with
  | nil => rfl
  | cons field fields ih =>
    obtain ⟨hfield, hfields⟩ := List.pairwise_cons.mp h
    rw [List.reverse_cons, List.lookup_append, ih hfields, lookup_cons field fields, lookup_cons]
    split
    · rename_i hname
      have hnone : fields.lookup name = none := by
        rw [List.lookup_eq_none_iff]
        intro other hother
        rw [bne_iff_ne, hname]
        exact (hfield other hother).ne
      rw [hnone, Option.none_or]
    · rw [List.lookup_nil, Option.or_none]

theorem lookup_sortedFields (fields done : List (String × Json)) (name : String) :
    (sortedFields fields done).lookup name =
      ((fields.reverse.lookup name).map sorted).or (done.lookup name) := by
  induction fields generalizing done with
  | nil => rfl
  | cons field fields ih =>
    obtain ⟨key, j⟩ := field
    rw [sortedFields, ih, lookup_insertField, List.reverse_cons, List.lookup_append, lookup_cons]
    cases fields.reverse.lookup name with
    | some found => rfl
    | none =>
      rw [Option.none_or, Option.map_none, Option.none_or]
      split
      · rfl
      · rfl

/-! ### What is read by name -/

theorem lookup_reverse_sortedFields (fields : List (String × Json)) (name : String) :
    (sortedFields fields []).reverse.lookup name =
      (fields.reverse.lookup name).map sorted := by
  have hrises : Rises (sortedFields fields []) := Rises.sortedFields List.Pairwise.nil fields
  rw [hrises.lookup_reverse, lookup_sortedFields, List.lookup_nil, Option.or_none]

theorem field?_sorted (name : String) (j : Json) :
    j.sorted.field? name = (j.field? name).map sorted := by
  cases j with
  | object fields => exact lookup_reverse_sortedFields fields name
  | null => rfl
  | bool b => rfl
  | integer n => rfl
  | real x => rfl
  | string s => rfl
  | array items => rfl

theorem number?_sorted (j : Json) : j.sorted.number? = j.number? := by
  cases j <;> rfl

theorem string?_sorted (j : Json) : j.sorted.string? = j.string? := by
  cases j <;> rfl

theorem bool?_sorted (j : Json) : j.sorted.bool? = j.bool? := by
  cases j <;> rfl

theorem sortedItems_eq_map (items : List Json) : sortedItems items = items.map sorted := by
  induction items with
  | nil => rfl
  | cons j items ih => rw [sortedItems, ih, List.map_cons]

theorem array?_sorted (j : Json) : j.sorted.array? = j.array?.map (·.map sorted) := by
  cases j with
  | array items => exact congrArg some (sortedItems_eq_map items)
  | null => rfl
  | bool b => rfl
  | integer n => rfl
  | real x => rfl
  | string s => rfl
  | object fields => rfl

/-! ### Records -/

theorem lookup_zip_sorted (names : List String) (items : List Json) (name : String) :
    (names.zip (items.map sorted)).lookup name = ((names.zip items).lookup name).map sorted := by
  induction names generalizing items with
  | nil => rfl
  | cons first names ih =>
    cases items with
    | nil => rfl
    | cons j items =>
      rw [List.map_cons, List.zip_cons_cons, List.zip_cons_cons, lookup_cons, lookup_cons, ih]
      split <;> rfl

/-- The members of the sorted record. -/
def Members.sorted (m : Members) : Members :=
  ⟨fun name => (m.find name).map Json.sorted, m.byPlace⟩

theorem members?_sorted (names : List String) (j : Json) :
    j.sorted.members? names = (j.members? names).map Members.sorted := by
  cases j with
  | object fields =>
    exact congrArg (fun find => some (Members.mk find false))
      (funext (lookup_reverse_sortedFields fields))
  | array items =>
    rw [sorted, sortedItems_eq_map, members?, members?, List.length_map]
    split
    · exact congrArg (fun find => some (Members.mk find true))
        (funext (lookup_zip_sorted names items))
    · rfl
  | null => rfl
  | bool b => rfl
  | integer n => rfl
  | real x => rfl
  | string s => rfl

namespace Members

theorem required_sorted (m : Members) (name : String) (hread : ∀ j : Json, read j.sorted = read j) :
    m.sorted.required name read = m.required name read := by
  rw [required, required, sorted, Option.bind_map]
  exact congrArg (m.find name).bind (funext hread)

theorem withDefault_sorted (m : Members) (name : String) (default : α)
    (hread : ∀ j : Json, read j.sorted = read j) :
    m.sorted.withDefault name default read = m.withDefault name default read := by
  have hfind : m.sorted.find name = (m.find name).map Json.sorted := rfl
  rw [withDefault, withDefault, hfind]
  cases m.find name with
  | none => rfl
  | some j => exact hread j

theorem optionalWithDefault_sorted (m : Members) (name : String)
    (hread : ∀ j : Json, read j.sorted = read j) :
    m.sorted.optionalWithDefault name read = m.optionalWithDefault name read := by
  have hfind : m.sorted.find name = (m.find name).map Json.sorted := rfl
  rw [optionalWithDefault, optionalWithDefault, hfind]
  cases m.find name with
  | none => rfl
  | some j =>
    cases j with
    | null => rfl
    | bool b => exact congrArg (Option.map some) (hread _)
    | integer n => exact congrArg (Option.map some) (hread _)
    | real x => exact congrArg (Option.map some) (hread _)
    | string s => exact congrArg (Option.map some) (hread _)
    | array items => exact congrArg (Option.map some) (hread (.array items))
    | object fields => exact congrArg (Option.map some) (hread (.object fields))

end Members

end Montage.Json
