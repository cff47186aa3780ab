import Montage.Json.Parser
import Montage.Proofs.Json.Reader
import Montage.Proofs.Text.Removal

/-! A fence left out of a JSON text is left out of its strings. The value keeps its shape, and its
texts and names lose as many letters as the text does. -/
namespace Montage.Json

/-! ### Shape and letters -/

mutual

/-- What is left of a value without its texts and names. -/
def shape : Json → Json
  | string _ => string ""
  | array items => array (shapeItems items)
  | object fields => object (shapeFields fields)
  | j => j

def shapeItems : List Json → List Json
  | [] => []
  | j :: rest => shape j :: shapeItems rest

def shapeFields : List (String × Json) → List (String × Json)
  | [] => []
  | (_, j) :: rest => ("", shape j) :: shapeFields rest

end

mutual

/-- How many letters its texts and names have. -/
def letters : Json → Nat
  | string s => s.length
  | array items => lettersItems items
  | object fields => lettersFields fields
  | _ => 0

def lettersItems : List Json → Nat
  | [] => 0
  | j :: rest => letters j + lettersItems rest

def lettersFields : List (String × Json) → Nat
  | [] => 0
  | (name, j) :: rest => name.length + letters j + lettersFields rest

end

/-- The value keeps its shape and loses so many letters. -/
def Loses (k : Nat) (j j' : Json) : Prop :=
  j'.shape = j.shape ∧ j'.letters + k = j.letters

theorem shapeItems_append (items more : List Json) :
    shapeItems (items ++ more) = shapeItems items ++ shapeItems more := by
  induction items with
  | nil => rfl
  | cons j items ih => rw [List.cons_append, shapeItems, shapeItems, ih, List.cons_append]

theorem shapeFields_append (fields more : List (String × Json)) :
    shapeFields (fields ++ more) = shapeFields fields ++ shapeFields more := by
  induction fields with
  | nil => rfl
  | cons field fields ih => rw [List.cons_append, shapeFields, shapeFields, ih, List.cons_append]

theorem lettersItems_append (items more : List Json) :
    lettersItems (items ++ more) = lettersItems items + lettersItems more := by
  induction items with
  | nil => rw [List.nil_append, lettersItems, Nat.zero_add]
  | cons j items ih => rw [List.cons_append, lettersItems, lettersItems, ih, Nat.add_assoc]

theorem lettersFields_append (fields more : List (String × Json)) :
    lettersFields (fields ++ more) = lettersFields fields + lettersFields more := by
  induction fields with
  | nil => rw [List.nil_append, lettersFields, Nat.zero_add]
  | cons field fields ih =>
    rw [List.cons_append, lettersFields, lettersFields, ih, Nat.add_assoc _ _ (lettersFields more)]

theorem ofItems?_concat_eq_some_iff {depth : Nat} {items : List Source} {v : Source}
    {js : List Json} : ofItems? depth (items ++ [v]) = some js ↔
      ∃ before j, ofItems? depth items = some before ∧ ofSource? depth v = some j ∧
        js = before ++ [j] := by
  induction items generalizing js with
  | nil =>
    simp only [List.nil_append, ofItems?, Option.bind_eq_bind, Option.bind_eq_some_iff,
      Option.bind_some, Option.some.injEq]
    constructor
    · rintro ⟨j, hj, rfl⟩
      exact ⟨[], j, rfl, hj, rfl⟩
    · rintro ⟨_, j, rfl, hj, rfl⟩
      exact ⟨j, hj, rfl⟩
  | cons item items ih =>
    simp only [List.cons_append, ofItems?, Option.bind_eq_bind, Option.bind_eq_some_iff, ih,
      Option.some.injEq]
    constructor
    · rintro ⟨first, hfirst, _, ⟨before, j, hbefore, hj, rfl⟩, rfl⟩
      exact ⟨first :: before, j, ⟨first, hfirst, before, hbefore, rfl⟩, hj, rfl⟩
    · rintro ⟨_, j, ⟨first, hfirst, before, hbefore, rfl⟩, hj, rfl⟩
      exact ⟨first, hfirst, before ++ [j], ⟨before, j, hbefore, hj, rfl⟩, rfl⟩

theorem ofFields?_concat_eq_some_iff {depth : Nat} {fields : List (Option String × Source)}
    {name : Option String} {v : Source} {js : List (String × Json)} :
    ofFields? depth (fields ++ [(name, v)]) = some js ↔
      ∃ before s j, ofFields? depth fields = some before ∧ name = some s ∧
        ofSource? depth v = some j ∧ js = before ++ [(s, j)] := by
  induction fields generalizing js with
  | nil =>
    simp only [List.nil_append, ofFields?, Option.bind_eq_bind, Option.bind_eq_some_iff,
      Option.bind_some, Option.some.injEq]
    constructor
    · rintro ⟨s, hs, j, hj, rfl⟩
      exact ⟨[], s, j, rfl, hs, hj, rfl⟩
    · rintro ⟨_, s, j, rfl, hs, hj, rfl⟩
      exact ⟨s, hs, j, hj, rfl⟩
  | cons field fields ih =>
    simp only [List.cons_append, ofFields?, Option.bind_eq_bind, Option.bind_eq_some_iff, ih,
      Option.some.injEq]
    constructor
    · rintro ⟨s', hs', first, hfirst, _, ⟨before, s, j, hbefore, hs, hj, rfl⟩, rfl⟩
      exact ⟨(s', first) :: before, s, j, ⟨s', hs', first, hfirst, before, hbefore, rfl⟩, hs, hj,
        rfl⟩
    · rintro ⟨_, s, j, ⟨s', hs', first, hfirst, before, hbefore, rfl⟩, hs, hj, rfl⟩
      exact ⟨s', hs', first, hfirst, before ++ [(s, j)], ⟨before, s, j, hbefore, hs, hj, rfl⟩, rfl⟩

namespace Source

/-- Where one text has a value, the other has the same with so many letters less. -/
def Loses (k : Nat) (v w : Source) : Prop :=
  ∀ depth j, ofSource? depth v = some j → ∃ j', ofSource? depth w = some j' ∧ Json.Loses k j j'

variable {v v' w w' : Source} {k m : Nat}

theorem Loses.refl (v : Source) : Loses 0 v v :=
  fun _ j h => ⟨j, h, rfl, rfl⟩

theorem ofSource?_array_eq_some_iff {depth : Nat} {items : List Source} {j : Json} :
    ofSource? depth (.array items) = some j ↔
      1 < depth ∧ ∃ js, ofItems? (depth - 1) items = some js ∧ j = .array js := by
  rw [ofSource?]
  split
  · rename_i hdepth
    simp [Nat.not_lt.mpr hdepth]
  · rename_i hdepth
    rw [Option.map_eq_some_iff, and_iff_right (Nat.lt_of_not_le hdepth)]
    exact exists_congr fun js => and_congr_right fun _ => eq_comm

theorem ofSource?_object_eq_some_iff {depth : Nat} {fields : List (Option String × Source)}
    {j : Json} : ofSource? depth (.object fields) = some j ↔
      1 < depth ∧ ∃ js, ofFields? (depth - 1) fields = some js ∧ j = .object js := by
  rw [ofSource?]
  split
  · rename_i hdepth
    simp [Nat.not_lt.mpr hdepth]
  · rename_i hdepth
    rw [Option.map_eq_some_iff, and_iff_right (Nat.lt_of_not_le hdepth)]
    exact exists_congr fun js => and_congr_right fun _ => eq_comm

theorem Loses.items_cons {items items' : List Source}
    (h : Loses k (.array items.reverse) (.array items'.reverse)) (hv : Loses m v v') :
    Loses (k + m) (.array (v :: items).reverse) (.array (v' :: items').reverse) := by
  rw [List.reverse_cons, List.reverse_cons]
  intro depth j hj
  obtain ⟨hdepth, _, hitems, rfl⟩ := ofSource?_array_eq_some_iff.mp hj
  obtain ⟨before, last, hbefore, hlast, rfl⟩ := ofItems?_concat_eq_some_iff.mp hitems
  obtain ⟨_, hbefore', hshape, hletters⟩ :=
    h depth _ (ofSource?_array_eq_some_iff.mpr ⟨hdepth, before, hbefore, rfl⟩)
  obtain ⟨-, before', hitems', rfl⟩ := ofSource?_array_eq_some_iff.mp hbefore'
  obtain ⟨last', hlast', hshape', hletters'⟩ := hv _ last hlast
  refine ⟨.array (before' ++ [last']), ?_, ?_, ?_⟩
  · exact ofSource?_array_eq_some_iff.mpr ⟨hdepth, _,
      ofItems?_concat_eq_some_iff.mpr ⟨before', last', hitems', hlast', rfl⟩, rfl⟩
  · rw [shape, shape, Json.array.injEq] at hshape
    rw [shape, shape, shapeItems_append, shapeItems_append, hshape, shapeItems, shapeItems,
      shapeItems, shapeItems, hshape']
  · rw [letters, letters] at hletters
    rw [letters, letters, lettersItems_append, lettersItems_append, lettersItems, lettersItems,
      lettersItems, lettersItems]
    omega

theorem Loses.fields_cons {fields fields' : List (Option String × Source)}
    {name name' : Option String} {l : Nat}
    (h : Loses k (.object fields.reverse) (.object fields'.reverse))
    (hname : Loses l (.string name) (.string name')) (hv : Loses m v v') :
    Loses (k + l + m) (.object ((name, v) :: fields).reverse)
      (.object ((name', v') :: fields').reverse) := by
  rw [List.reverse_cons, List.reverse_cons]
  intro depth j hj
  obtain ⟨hdepth, _, hfields, rfl⟩ := ofSource?_object_eq_some_iff.mp hj
  obtain ⟨before, s, last, hbefore, rfl, hlast, rfl⟩ := ofFields?_concat_eq_some_iff.mp hfields
  obtain ⟨_, hbefore', hshape, hletters⟩ :=
    h depth _ (ofSource?_object_eq_some_iff.mpr ⟨hdepth, before, hbefore, rfl⟩)
  obtain ⟨-, before', hfields', rfl⟩ := ofSource?_object_eq_some_iff.mp hbefore'
  obtain ⟨_, hs', -, hsletters⟩ := hname 0 (.string s) rfl
  obtain ⟨s', rfl, rfl⟩ := Option.map_eq_some_iff.mp hs'
  obtain ⟨last', hlast', hshape', hletters'⟩ := hv _ last hlast
  refine ⟨.object (before' ++ [(s', last')]), ?_, ?_, ?_⟩
  · exact ofSource?_object_eq_some_iff.mpr ⟨hdepth, _,
      ofFields?_concat_eq_some_iff.mpr ⟨before', s', last', hfields', rfl, hlast', rfl⟩, rfl⟩
  · rw [shape, shape, Json.object.injEq] at hshape
    rw [shape, shape, shapeFields_append, shapeFields_append, hshape, shapeFields, shapeFields,
      shapeFields, shapeFields, hshape']
  · simp only [letters] at hletters hsletters
    simp only [letters, lettersFields_append, lettersFields]
    omega

/-! ### Strings -/

/-- Some characters are left out, and no units that stand by number. -/
inductive Drops : Nat → List CodeUnit → List CodeUnit → Prop
  | nil : Drops 0 [] []
  | keep {k : Nat} {units more : List CodeUnit} (u : CodeUnit) (h : Drops k units more) :
      Drops k (u :: units) (u :: more)
  | drop {k : Nat} {units more : List CodeUnit} (c : Char) (h : Drops k units more) :
      Drops (k + 1) (.char c :: units) more

variable {units units' more more' : List CodeUnit} {cs ds rest name : List Char}

theorem Drops.append (h : Drops k units units') (hmore : Drops m more more') :
    Drops (k + m) (units ++ more) (units' ++ more') := by
  induction h with
  | nil =>
    rw [Nat.zero_add]
    exact hmore
  | keep u h ih => exact .keep u ih
  | drop c h ih =>
    rw [Nat.add_right_comm]
    exact .drop c ih

theorem Drops.reverse (h : Drops k units units') : Drops k units.reverse units'.reverse := by
  induction h with
  | nil => exact .nil
  | keep u h ih =>
    rw [List.reverse_cons, List.reverse_cons]
    exact ih.append (.keep u .nil)
  | @drop k units units' c h ih =>
    rw [List.reverse_cons, ← List.append_nil units'.reverse]
    exact ih.append (.drop c .nil)

theorem Drops.chars (h : Drops k units units') (used : List Char) :
    Drops (k + used.length) (used.map .char ++ units) units' := by
  induction used with
  | nil => exact h
  | cons c used ih => exact .drop c ih

theorem textBefore?_number {n : Nat} (hn : ¬ (0xD800 ≤ n ∧ n ≤ 0xDFFF)) (after : List Char)
    (units : List CodeUnit) :
    textBefore? after (.number n :: units) = textBefore? (Char.ofNat n :: after) units := by
  cases units with
  | nil => simp only [textBefore?, if_neg hn]
  | cons u units =>
    cases u with
    | char c => simp only [textBefore?, if_neg hn]
    | number high =>
      have hlow : ¬ (0xDC00 ≤ n ∧ n ≤ 0xDFFF) := by omega
      have hhigh : ¬ (0xD800 ≤ n ∧ n ≤ 0xDBFF) := by omega
      rw [textBefore?, if_neg hlow, if_neg hhigh]

/-- Characters between units that stand by number may go: no pair is torn apart. -/
theorem exists_textBefore? (h : Drops k units units') {after : List Char}
    (htext : textBefore? after units = some cs) (after' : List Char) :
    ∃ ds, textBefore? after' units' = some ds ∧
      ds.length + k + after.length = cs.length + after'.length := by
  fun_induction textBefore? after units generalizing k units' after' with
  | case1 after =>
    cases h
    cases htext
    exact ⟨after', rfl, by omega⟩
  | case2 after c units ih =>
    cases h with
    | keep _ h =>
      obtain ⟨ds, hds, hlength⟩ := ih h htext (c :: after')
      refine ⟨ds, by rw [textBefore?, hds], ?_⟩
      rw [List.length_cons, List.length_cons] at hlength
      omega
    | drop _ h =>
      obtain ⟨ds, hds, hlength⟩ := ih h htext after'
      refine ⟨ds, hds, ?_⟩
      rw [List.length_cons] at hlength
      omega
  | case3 after low high units hlow hhigh ih =>
    cases h with
    | keep _ h =>
      cases h with
      | keep _ h =>
        obtain ⟨ds, hds, hlength⟩ := ih h htext _
        refine ⟨ds, by rw [textBefore?, if_pos hlow, if_pos hhigh, hds], ?_⟩
        rw [List.length_cons, List.length_cons] at hlength
        omega
  | case4 => cases htext
  | case5 => cases htext
  | case6 after low high units hlow hhigh ih =>
    cases h with
    | keep _ h =>
      obtain ⟨ds, hds, hlength⟩ := ih h htext (Char.ofNat low :: after')
      refine ⟨ds, by rw [textBefore?_number (by omega), hds], ?_⟩
      rw [List.length_cons, List.length_cons] at hlength
      omega
  | case7 => cases htext
  | case8 after n units hpair hn ih =>
    cases h with
    | keep _ h =>
      obtain ⟨ds, hds, hlength⟩ := ih h htext (Char.ofNat n :: after')
      refine ⟨ds, by rw [textBefore?_number hn, hds], ?_⟩
      rw [List.length_cons, List.length_cons] at hlength
      omega

/-- What a name may hold that stands in a string as it is. -/
def IsPlain (c : Char) : Prop :=
  c ≠ '\x22' ∧ c ≠ '\\' ∧ 32 ≤ c.toNat

theorem exists_of_spells_append {used : List Char} (hused : ∀ c ∈ used, IsPlain c)
    (h : Spells (used ++ cs) units rest) :
    ∃ more, units = used.map .char ++ more ∧ Spells cs more rest := by
  induction used generalizing units with
  | nil => exact ⟨units, rfl, h⟩
  | cons c used ih =>
    obtain ⟨hquote, hslash, hvisible⟩ := hused c List.mem_cons_self
    generalize htext : c :: used ++ cs = text at h
    rw [List.cons_append] at htext
    cases h with
    | close => exact absurd (List.cons.inj htext).1 hquote
    | number => exact absurd (List.cons.inj htext).1 hslash
    | escape => exact absurd (List.cons.inj htext).1 hslash
    | char _ _ _ h =>
      obtain ⟨rfl, rfl⟩ := List.cons.inj htext
      obtain ⟨more, rfl, hmore⟩ := ih (fun d hd => hused d (List.mem_cons_of_mem c hd)) h
      exact ⟨more, rfl, hmore⟩

theorem fence_notMem_of_isBare (h : ∀ c ∈ cs, IsBare c) : '\x60' ∉ cs := by
  intro hmem
  rcases h _ hmem with hword | hmark
  · revert hword
    decide
  · revert hmark
    decide

/-- Within a string a fence is characters like all others. -/
theorem Spells.without (hname : ∀ c ∈ '\x60' :: name, IsPlain c) (h : Spells cs units rest)
    (hds : Text.Without ('\x60' :: name) cs ds) :
    ∃ k units' rest', Spells ds units' rest' ∧ Text.Without ('\x60' :: name) rest rest' ∧
      Drops k units units' ∧ k + rest.length + ds.length = cs.length + rest'.length := by
  induction hlength : cs.length using Nat.strong_induction_on generalizing cs ds units with
  | _ length ih =>
  subst hlength
  cases hds with
  | nil => cases h
  | @keep cs ds c hds =>
    cases h with
    | close => exact ⟨0, [], ds, .close ds, hds, .nil, by simp only [List.length_cons]; omega⟩
    | @number cs after _ units n hunit h =>
      obtain ⟨digits, rfl, hdigits⟩ := hds.cons (by decide)
      obtain ⟨used, rfl, -, hletters, hlocal⟩ := hexUnit?_local hunit
      obtain ⟨ds, rfl, hafter⟩ := hdigits.append (fence_notMem_of_isBare hletters)
      have hshorter : after.length < ('\\' :: 'u' :: (used ++ after)).length := by
        simp only [List.length_cons, List.length_append]
        omega
      obtain ⟨k, units', rest', hspells, hrest, hdrops, hcount⟩ := ih _ hshorter h hafter rfl
      refine ⟨k, _, rest', .number (hlocal ds) hspells, hrest, .keep _ hdrops, ?_⟩
      simp only [List.length_cons, List.length_append]
      omega
    | @escape cs _ units e c hescape h =>
      have he : e ≠ '\x60' := by
        rintro rfl
        cases hescape
      obtain ⟨ds, rfl, hafter⟩ := hds.cons he
      have hshorter : cs.length < ('\\' :: e :: cs).length := by
        simp only [List.length_cons]
        omega
      obtain ⟨k, units', rest', hspells, hrest, hdrops, hcount⟩ := ih _ hshorter h hafter rfl
      refine ⟨k, _, rest', .escape hescape hspells, hrest, .keep _ hdrops, ?_⟩
      simp only [List.length_cons]
      omega
    | char hquote hslash hvisible h =>
      obtain ⟨k, units', rest', hspells, hrest, hdrops, hcount⟩ :=
        ih _ (Nat.lt_succ_self _) h hds rfl
      refine ⟨k, _, rest', .char hquote hslash hvisible hspells, hrest, .keep _ hdrops, ?_⟩
      simp only [List.length_cons]
      omega
  | @cut cs ds hds =>
    obtain ⟨more, rfl, hmore⟩ := exists_of_spells_append hname h
    have hshorter : cs.length < ('\x60' :: name ++ cs).length := by
      simp only [List.cons_append, List.length_cons, List.length_append]
      omega
    obtain ⟨k, units', rest', hspells, hrest, hdrops, hcount⟩ := ih _ hshorter hmore hds rfl
    refine ⟨_, units', rest', hspells, hrest, hdrops.chars _, ?_⟩
    rw [List.length_append]
    omega

theorem exists_text? (hname : ∀ c ∈ '\x60' :: name, IsPlain c) {text : Option String}
    (h : text? cs = some (text, rest)) (hds : Text.Without ('\x60' :: name) cs ds) :
    ∃ k text' rest', text? ds = some (text', rest') ∧ Text.Without ('\x60' :: name) rest rest' ∧
      Loses k (.string text) (.string text') ∧
      k + rest.length + ds.length = cs.length + rest'.length := by
  obtain ⟨units, hunits, rfl⟩ := text?_eq_some_iff.mp h
  obtain ⟨k, units', rest', hunits', hrest, hdrops, hcount⟩ := hunits.without hname hds
  refine ⟨k, _, rest', text?_eq_some_iff.mpr ⟨units', hunits', rfl⟩, hrest, ?_, hcount⟩
  intro depth j hj
  simp only [ofSource?, Option.map_map, Option.map_eq_some_iff] at hj ⊢
  obtain ⟨chars, hchars, rfl⟩ := hj
  obtain ⟨chars', hchars', hlength⟩ := exists_textBefore? hdrops.reverse hchars []
  refine ⟨_, ⟨chars', hchars', rfl⟩, rfl, ?_⟩
  simp only [Function.comp_apply, letters, String.length_ofList]
  exact hlength

end Source

end Montage.Json
