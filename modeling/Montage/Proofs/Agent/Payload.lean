import Montage.Agent.Action
import Montage.Proofs.Json.Extent

/-! The object inside a reply. What surrounds it does not matter, but fences are left out of its
strings as well. -/
namespace Montage

namespace Json

variable {name cs ds : List Char} {j : Json} {k m : Nat}

theorem Loses.trans {j' j'' : Json} (h : Loses k j j') (h' : Loses m j' j'') :
    Loses (k + m) j j'' := by
  obtain ⟨hshape, hletters⟩ := h
  obtain ⟨hshape', hletters'⟩ := h'
  exact ⟨hshape'.trans hshape, by omega⟩

theorem exists_of_shape_object {fields : List (String × Json)}
    (h : j.shape = (object fields).shape) : ∃ kept, j = .object kept := by
  cases j with
  | object kept => exact ⟨kept, rfl⟩
  | null => cases h
  | bool b => cases h
  | integer n => cases h
  | real x => cases h
  | string s => cases h
  | array items => cases h

theorem not_object_of_value? {n : WrittenNumber} {fields : List (String × Json)} :
    n.value? ≠ some (.object fields) := by
  intro h
  unfold WrittenNumber.value? at h
  dsimp only at h
  split_ifs at h <;> simp at h

/-- An object is written as one. -/
theorem exists_of_ofSource?_object {depth : Nat} {v : Source} {fields : List (String × Json)}
    (h : ofSource? depth v = some (.object fields)) : ∃ written, v = .object written := by
  cases v with
  | object written => exact ⟨written, rfl⟩
  | null => cases h
  | bool b => cases h
  | number n => exact absurd h not_object_of_value?
  | string text =>
    obtain ⟨s, -, hs⟩ := Option.map_eq_some_iff.mp h
    cases hs
  | array items =>
    obtain ⟨-, js, -, hjs⟩ := Source.ofSource?_array_eq_some_iff.mp h
    cases hjs

theorem exists_parseChars? (hname : ∀ c ∈ '\x60' :: name, Source.IsPlain c)
    (hds : Text.Without ('\x60' :: name) cs ds) (h : parseChars? cs = some j) :
    ∃ j', parseChars? ds = some j' ∧ Loses (cs.length - ds.length) j j' := by
  obtain ⟨v, hv, hj⟩ := Option.bind_eq_some_iff.mp h
  obtain ⟨w, hw, hloses⟩ := Source.exists_ofText? hname hds hv
  obtain ⟨j', hj', hlost⟩ := hloses depthLimit j hj
  exact ⟨j', Option.bind_eq_some_iff.mpr ⟨w, hw, hj'⟩, hlost⟩

end Json

namespace Agent

variable {cs mark : List Char} {marks : List (List Char)} {c : Char} {j : Json}

/-! ### Leaving out marks -/

/-- A mark that begins as a code fence does and that may stand in a string. -/
def IsFence (mark : List Char) : Prop :=
  mark.head? = some '\x60' ∧ ∀ c ∈ mark, Json.Source.IsPlain c ∧ c ≠ '\x7b' ∧ c ≠ '\x7d'

theorem isFence_of_all (hhead : mark.head? = some '\x60')
    (h : mark.all (fun c => decide (c ≠ '\x22' ∧ c ≠ '\\' ∧ 32 ≤ c.toNat ∧ c ≠ '\x7b' ∧
      c ≠ '\x7d')) = true) : IsFence mark := by
  refine ⟨hhead, fun c hc => ?_⟩
  obtain ⟨hquote, hslash, hvisible, hopen, hclose⟩ :=
    of_decide_eq_true (List.all_eq_true.mp h c hc)
  exact ⟨⟨hquote, hslash, hvisible⟩, hopen, hclose⟩

/-- The marks left out one after the other. -/
def withoutMarks (marks : List (List Char)) (cs : List Char) : List Char :=
  marks.foldl (fun cs mark => Text.removeAll mark cs) cs

theorem withoutMarks_cons (mark : List Char) (marks : List (List Char)) (cs : List Char) :
    withoutMarks (mark :: marks) cs = withoutMarks marks (Text.removeAll mark cs) :=
  rfl

theorem isFence_of_mem : ∀ mark ∈ [fence "json", fence "JSON", fence ""], IsFence mark := by
  simp only [List.forall_mem_cons, List.not_mem_nil, false_implies, implies_true, and_true]
  exact ⟨isFence_of_all rfl rfl, isFence_of_all rfl rfl, isFence_of_all rfl rfl⟩

theorem withoutMarks_sublist (marks : List (List Char)) (cs : List Char) :
    (withoutMarks marks cs).Sublist cs := by
  induction marks generalizing cs with
  | nil => exact List.Sublist.refl cs
  | cons mark marks ih => exact (ih _).trans (Text.without_removeAll mark cs).sublist

theorem withoutMarks_append_cons (hc : ∀ mark ∈ marks, c ∉ mark) (before after : List Char) :
    withoutMarks marks (before ++ c :: after) =
      withoutMarks marks before ++ c :: withoutMarks marks after := by
  induction marks generalizing before after with
  | nil => rfl
  | cons mark marks ih =>
    have hmore := ih fun m hm => hc m (List.mem_cons_of_mem mark hm)
    rw [withoutMarks_cons, Text.removeAll_append_cons (hc mark List.mem_cons_self), hmore]
    rfl

theorem withoutMarks_eq_self (h : ∀ mark ∈ marks, ¬ mark <:+: cs) : withoutMarks marks cs = cs := by
  induction marks with
  | nil => rfl
  | cons mark marks ih =>
    rw [withoutMarks_cons, Text.removeAll_eq_self (h mark List.mem_cons_self)]
    exact ih fun m hm => h m (List.mem_cons_of_mem mark hm)

theorem length_withoutMarks_lt (hne : ∀ mark ∈ marks, mark ≠ [])
    (h : ∃ mark ∈ marks, mark <:+: cs) : (withoutMarks marks cs).length < cs.length := by
  induction marks with
  | nil =>
    obtain ⟨mark, hmem, -⟩ := h
    cases hmem
  | cons first marks ih =>
    rw [withoutMarks_cons]
    by_cases hfirst : first <:+: cs
    · exact (withoutMarks_sublist marks _).length_le.trans_lt
        (Text.length_removeAll_lt (hne first List.mem_cons_self) hfirst)
    · obtain ⟨mark, hmem, hmark⟩ := h
      have hmore : mark ∈ marks :=
        (List.mem_cons.mp hmem).resolve_left fun heq => hfirst (heq ▸ hmark)
      rw [Text.removeAll_eq_self hfirst]
      exact ih (fun m hm => hne m (List.mem_cons_of_mem first hm)) ⟨mark, hmore, hmark⟩

theorem exists_parseChars?_withoutMarks (hmarks : ∀ mark ∈ marks, IsFence mark)
    (h : Json.parseChars? cs = some j) :
    ∃ j', Json.parseChars? (withoutMarks marks cs) = some j' ∧
      Json.Loses (cs.length - (withoutMarks marks cs).length) j j' := by
  induction marks generalizing cs j with
  | nil =>
    refine ⟨j, h, rfl, ?_⟩
    rw [withoutMarks, List.foldl_nil, Nat.sub_self, Nat.add_zero]
  | cons mark marks ih =>
    obtain ⟨hhead, hchars⟩ := hmarks mark List.mem_cons_self
    obtain ⟨name, rfl⟩ := List.head?_eq_some_iff.mp hhead
    have hremoved := Text.without_removeAll ('\x60' :: name) cs
    obtain ⟨j', hj', hloses⟩ :=
      Json.exists_parseChars? (fun c hc => (hchars c hc).1) hremoved h
    obtain ⟨j'', hj'', hloses'⟩ := ih (fun m hm => hmarks m (List.mem_cons_of_mem _ hm)) hj'
    have hle := hremoved.sublist.length_le
    have hle' := (withoutMarks_sublist marks (Text.removeAll ('\x60' :: name) cs)).length_le
    refine ⟨j'', hj'', ?_⟩
    have hlost := hloses.trans hloses'
    rw [Nat.sub_add_sub_cancel hle hle'] at hlost
    exact hlost

theorem notMem_of_mem_fences (hc : c = '\x7b' ∨ c = '\x7d') :
    ∀ mark ∈ [fence "json", fence "JSON", fence ""], c ∉ mark := by
  intro mark hmark hmem
  obtain ⟨-, hopen, hclose⟩ := (isFence_of_mem mark hmark).2 c hmem
  rcases hc with rfl | rfl
  · exact hopen rfl
  · exact hclose rfl

/-- An object without its fences is an object that has lost letters. -/
theorem exists_parseChars?_withoutFences {fields : List (String × Json)}
    (h : Json.parseChars? cs = some (.object fields)) :
    ∃ kept, Json.parseChars? (withoutFences cs) = some (.object kept) ∧
      Json.Loses (cs.length - (withoutFences cs).length) (.object fields) (.object kept) := by
  obtain ⟨j, hj, hloses⟩ := exists_parseChars?_withoutMarks isFence_of_mem h
  obtain ⟨kept, rfl⟩ := Json.exists_of_shape_object hloses.1
  exact ⟨kept, hj, hloses⟩

theorem withoutFences_append_cons (hc : c = '\x7b' ∨ c = '\x7d') (before after : List Char) :
    withoutFences (before ++ c :: after) = withoutFences before ++ c :: withoutFences after :=
  withoutMarks_append_cons (notMem_of_mem_fences hc) before after

theorem withoutFences_sublist (cs : List Char) : (withoutFences cs).Sublist cs :=
  withoutMarks_sublist _ cs

theorem isPrefix_fence (language : String) : fence "" <+: fence language :=
  ⟨language.toList, by simp [fence]⟩

/-- Every mark of a fence begins with the bare one. -/
theorem withoutFences_eq_self (h : ¬ fence "" <:+: cs) : withoutFences cs = cs := by
  refine withoutMarks_eq_self ?_
  simp only [List.forall_mem_cons, List.not_mem_nil, false_implies, implies_true, and_true]
  exact ⟨fun hmark => h ((isPrefix_fence _).isInfix.trans hmark),
    fun hmark => h ((isPrefix_fence _).isInfix.trans hmark), h⟩

theorem length_withoutFences_lt (h : fence "" <:+: cs) :
    (withoutFences cs).length < cs.length := by
  refine length_withoutMarks_lt ?_ ⟨fence "", by simp, h⟩
  intro mark hmark hnil
  have hhead := (isFence_of_mem mark hmark).1
  rw [hnil] at hhead
  cases hhead

theorem withoutFences_of_isSpace (h : ∀ c ∈ cs, Json.Source.isSpace c = true) :
    withoutFences cs = cs := by
  refine withoutFences_eq_self fun hmark => ?_
  have hspace := h '\x60' (hmark.mem (by decide))
  revert hspace
  decide

/-! ### The outermost braces -/

theorem outermost?_braces {before inner after : List Char} (hbefore : '\x7b' ∉ before)
    (hafter : '\x7d' ∉ after) :
    outermost? (before ++ '\x7b' :: (inner ++ '\x7d' :: after)) =
      some ('\x7b' :: (inner ++ ['\x7d'])) := by
  have hopen : ∀ c ∈ before, decide (c ≠ '\x7b') = true := by
    intro c hc
    exact decide_eq_true fun heq => hbefore (heq ▸ hc)
  have hclose : ∀ c ∈ after.reverse, decide (c ≠ '\x7d') = true := by
    intro c hc
    exact decide_eq_true fun heq => hafter (heq ▸ List.mem_reverse.mp hc)
  have hreverse : ('\x7b' :: (inner ++ '\x7d' :: after)).reverse =
      after.reverse ++ '\x7d' :: (inner.reverse ++ ['\x7b']) := by simp
  have hdrop : (('\x7b' :: (inner ++ '\x7d' :: after)).dropWhile (· ≠ '\x7b')) =
      '\x7b' :: (inner ++ '\x7d' :: after) := rfl
  rw [outermost?, List.dropWhile_append_of_pos hopen, hdrop, hreverse,
    List.dropWhile_append_of_pos hclose]
  simp

/-- Nothing but what stands between the braces counts. -/
theorem outermost?_withoutFences {before inner after : List Char} (hbefore : '\x7b' ∉ before)
    (hafter : '\x7d' ∉ after) :
    outermost? (withoutFences (before ++ '\x7b' :: (inner ++ '\x7d' :: after))) =
      some ('\x7b' :: (withoutFences inner ++ ['\x7d'])) := by
  rw [withoutFences_append_cons (.inl rfl), withoutFences_append_cons (.inr rfl)]
  exact outermost?_braces (fun hmem => hbefore ((withoutFences_sublist before).mem hmem))
    fun hmem => hafter ((withoutFences_sublist after).mem hmem)

/-! ### What the payload is -/

theorem payload?_of_braces {text : String} {before inner after : List Char}
    (htext : text.toList = before ++ '\x7b' :: (inner ++ '\x7d' :: after))
    (hbefore : '\x7b' ∉ before) (hafter : '\x7d' ∉ after) :
    payload? text =
      (Json.parseChars? ('\x7b' :: (withoutFences inner ++ ['\x7d']))).map Json.sorted := by
  rw [payload?, htext, outermost?_withoutFences hbefore hafter]
  rfl

theorem withoutFences_braces {before after : List Char} (inner : List Char)
    (hbefore : ∀ c ∈ before, Json.Source.isSpace c = true)
    (hafter : ∀ c ∈ after, Json.Source.isSpace c = true) :
    withoutFences (before ++ '\x7b' :: (inner ++ '\x7d' :: after)) =
      before ++ '\x7b' :: (withoutFences inner ++ '\x7d' :: after) := by
  rw [withoutFences_append_cons (.inl rfl), withoutFences_append_cons (.inr rfl),
    withoutFences_of_isSpace hbefore, withoutFences_of_isSpace hafter]

theorem notMem_of_isSpace (hc : c = '\x7b' ∨ c = '\x7d')
    (h : ∀ c ∈ cs, Json.Source.isSpace c = true) : c ∉ cs := by
  intro hmem
  have hspace := h c hmem
  rcases hc with rfl | rfl
  · revert hspace
    decide
  · revert hspace
    decide

/-- What stands around an object is not part of the payload. Where the text has no fence, the
payload is the object itself. Otherwise it is a different object of the same shape, with as many
letters gone from its texts and names as characters from the text. -/
theorem payload?_surrounded {before text after : String} (hbefore : '\x7b' ∉ before.toList)
    (hafter : '\x7d' ∉ after.toList) {fields : List (String × Json)}
    (htext : Json.parseChars? text.toList = some (.object fields)) :
    payload? (before ++ text ++ after) = payload? text ∧
    (¬ fence "" <:+: text.toList → payload? text = Json.parse? text) ∧
    ∃ kept, payload? text = some (Json.object kept).sorted ∧
      Json.Loses (text.toList.length - (withoutFences text.toList).length) (.object fields)
        (.object kept) ∧
      (kept = fields ↔ ¬ fence "" <:+: text.toList) := by
  obtain ⟨v, hv, hfields⟩ := Option.bind_eq_some_iff.mp htext
  obtain ⟨written, rfl⟩ := Json.exists_of_ofSource?_object hfields
  obtain ⟨lead, inner, trail, hsplit, hlead, htrail, hbody⟩ := Json.Source.exists_braces hv
  have hparse : Json.parseChars? ('\x7b' :: (inner ++ ['\x7d'])) = some (.object fields) :=
    Option.bind_eq_some_iff.mpr ⟨_, hbody, hfields⟩
  have hnone : ∀ c ∈ ([] : List Char), Json.Source.isSpace c = true := by simp
  have hwithout := withoutFences_braces inner hnone hnone
  rw [List.nil_append, List.nil_append] at hwithout
  obtain ⟨kept, hkept, hloses⟩ := exists_parseChars?_withoutFences hparse
  have hpayload : payload? text = some (Json.object kept).sorted := by
    rw [payload?_of_braces hsplit (notMem_of_isSpace (.inl rfl) hlead)
      (notMem_of_isSpace (.inr rfl) htrail), ← hwithout, hkept]
    rfl
  have hcount : text.toList.length - (withoutFences text.toList).length =
      ('\x7b' :: (inner ++ ['\x7d'])).length -
        (withoutFences ('\x7b' :: (inner ++ ['\x7d']))).length := by
    rw [hsplit, hwithout, withoutFences_braces inner hlead htrail]
    simp only [List.length_append, List.length_cons, List.length_nil]
    omega
  rw [← hcount] at hloses
  have hsame : ¬ fence "" <:+: text.toList → kept = fields := by
    intro hfence
    have hinfix : '\x7b' :: (inner ++ ['\x7d']) <:+: text.toList :=
      ⟨lead, trail, by rw [hsplit]; simp⟩
    have hinner := withoutFences_eq_self fun hmark => hfence (hmark.trans hinfix)
    rw [hinner, hparse] at hkept
    cases hkept
    rfl
  refine ⟨?_, ?_, kept, hpayload, hloses, ?_, hsame⟩
  · have houter : (before ++ text ++ after).toList = (before.toList ++ lead) ++
        '\x7b' :: (inner ++ '\x7d' :: (trail ++ after.toList)) := by
      rw [String.toList_append, String.toList_append, hsplit]
      simp only [List.append_assoc, List.cons_append]
    have hopen : '\x7b' ∉ before.toList ++ lead := by
      rw [List.mem_append, not_or]
      exact ⟨hbefore, notMem_of_isSpace (.inl rfl) hlead⟩
    have hclose : '\x7d' ∉ trail ++ after.toList := by
      rw [List.mem_append, not_or]
      exact ⟨notMem_of_isSpace (.inr rfl) htrail, hafter⟩
    rw [payload?_of_braces houter hopen hclose, hpayload, ← hwithout, hkept]
    rfl
  · intro hfence
    rw [hpayload, hsame hfence, Json.parse?, htext]
    rfl
  · rintro rfl hfence
    have hless := length_withoutFences_lt hfence
    have hletters := hloses.2
    omega

/-- A caption with a fence in it, in a fenced reply. -/
theorem payload?_surrounded_caption :
    payload? "Here:\n```json\n\x7b\x22text\x22: \x22Run ```x``` now\x22\x7d\n```" =
        payload? "\x7b\x22text\x22: \x22Run ```x``` now\x22\x7d" ∧
      ∃ kept, payload? "\x7b\x22text\x22: \x22Run ```x``` now\x22\x7d" =
          some (Json.object kept).sorted ∧
        Json.Loses 6 (.object [("text", .string "Run ```x``` now")]) (.object kept) ∧
        kept ≠ [("text", .string "Run ```x``` now")] := by
  have hbefore : '\x7b' ∉ "Here:\n```json\n".toList := by decide
  have hafter : '\x7d' ∉ "\n```".toList := by decide
  have htext : Json.parseChars? "\x7b\x22text\x22: \x22Run ```x``` now\x22\x7d".toList =
      some (.object [("text", .string "Run ```x``` now")]) := by cbv
  obtain ⟨hsurrounded, -, kept, hkept, hloses, hsame⟩ := payload?_surrounded hbefore hafter htext
  have hcount : "\x7b\x22text\x22: \x22Run ```x``` now\x22\x7d".toList.length -
      (withoutFences "\x7b\x22text\x22: \x22Run ```x``` now\x22\x7d".toList).length = 6 := by
    decide +kernel
  rw [hcount] at hloses
  refine ⟨hsurrounded, kept, hkept, hloses, ?_⟩
  rw [Ne, hsame, not_not]
  exact ⟨"\x7b\x22text\x22: \x22Run ".toList, "x``` now\x22\x7d".toList, by decide⟩

/-- A fence inside a caption is lost from it. -/
theorem exists_payload?_ne : ∃ before text after : String, '\x7b' ∉ before.toList ∧
    '\x7d' ∉ after.toList ∧ (∃ fields, Json.parseChars? text.toList = some (.object fields)) ∧
    payload? (before ++ text ++ after) ≠ Json.parse? text := by
  refine ⟨"```json\n", "\x7b\x22text\x22: \x22Run ```x``` now\x22\x7d", "\n```", by decide,
    by decide, ⟨[("text", .string "Run ```x``` now")], by cbv⟩, ?_⟩
  intro heq
  have htext := congrArg (fun j => j.bind (textField? ["text"])) heq
  revert htext
  decide +kernel

end Agent

end Montage
