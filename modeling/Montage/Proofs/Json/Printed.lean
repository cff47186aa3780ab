import Montage.Json.Parser
import Montage.Json.Printer
import Montage.Proofs.Json.Extent
import Montage.Proofs.Number.Printed

/-! Printed JSON reads back, as far as its numbers do. -/
namespace Montage.Json

/-! ### Measures of a value -/

mutual

/-- How deep arrays and objects are nested in a value. -/
def depth : Json → Nat
  | array items => depthItems items + 1
  | object fields => depthFields fields + 1
  | _ => 0

def depthItems : List Json → Nat
  | [] => 0
  | j :: rest => max (depth j) (depthItems rest)

def depthFields : List (String × Json) → Nat
  | [] => 0
  | (_, j) :: rest => max (depth j) (depthFields rest)

end

mutual

/-- The numbers in a value. -/
def numbers : Json → List Json
  | integer n => [integer n]
  | real x => [real x]
  | array items => numbersItems items
  | object fields => numbersFields fields
  | _ => []

def numbersItems : List Json → List Json
  | [] => []
  | j :: rest => numbers j ++ numbersItems rest

def numbersFields : List (String × Json) → List Json
  | [] => []
  | (_, j) :: rest => numbers j ++ numbersFields rest

end

/-- A number, or any other value, is what its printed form says. -/
def ReadsBack (j : Json) : Prop :=
  parseChars? j.print.toList = some j

/-- The number that a value is. -/
def numeral? : Json → Option (Int ⊕ Binary64)
  | integer n => some (.inl n)
  | real x => some (.inr x)
  | _ => none

theorem ReadsBack.of_numeral? {j : Json} (hnumber : j.numeral?.isSome = true)
    (h : (parseChars? j.print.toList).bind numeral? = j.numeral?) : j.ReadsBack := by
  obtain ⟨n, hn⟩ := Option.isSome_iff_exists.mp hnumber
  obtain ⟨read, hread, hsame⟩ := Option.bind_eq_some_iff.mp (h.trans hn)
  rw [ReadsBack, hread]
  cases j <;> cases hn <;> cases read <;> cases hsame <;> rfl

namespace Source

variable {cs rest text blanks : List Char} {c : Char} {v : Source} {j : Json} {frames : List Frame}

/-! ### Strings -/

/-- What stands for a character: itself, or a number that names it. -/
inductive Stands : CodeUnit → Char → Prop
  | char (c : Char) : Stands (.char c) c
  | number {n : Nat} {c : Char} (hn : n < 0xD800) (hc : Char.ofNat n = c) : Stands (.number n) c

theorem hexUnit?_hexDigits : ∀ n < 32,
    hexUnit? (List.replicate (4 - (Text.hexDigits n).length) '0' ++ Text.hexDigits n) =
      some (n, []) := by
  decide

/-- However a character is written, it is read as itself. -/
theorem exists_spells_escapeChar (c : Char) {units : List CodeUnit} (h : Spells cs units rest) :
    ∃ u, Stands u c ∧ Spells (escapeChar c ++ cs) (u :: units) rest := by
  unfold escapeChar
  split_ifs with hquote hfeed htab hreturn hback hform hcontrol
  · rcases hquote with rfl | rfl
    · exact ⟨_, .char _, .escape rfl h⟩
    · exact ⟨_, .char _, .escape rfl h⟩
  · exact ⟨_, hfeed ▸ .char _, .escape rfl h⟩
  · exact ⟨_, htab ▸ .char _, .escape rfl h⟩
  · exact ⟨_, hreturn ▸ .char _, .escape rfl h⟩
  · exact ⟨_, hback ▸ .char _, .escape rfl h⟩
  · exact ⟨_, hform ▸ .char _, .escape rfl h⟩
  · obtain ⟨used, hused, -, -, hlocal⟩ := hexUnit?_local (hexUnit?_hexDigits _ hcontrol)
    rw [List.append_nil] at hused
    have hunit := hlocal cs
    rw [← hused, List.append_assoc] at hunit
    refine ⟨.number c.toNat, .number (by omega) (Char.ofNat_toNat c), ?_⟩
    simp only [List.cons_append, List.nil_append, List.append_assoc]
    exact .number hunit h
  · rw [not_or] at hquote
    exact ⟨_, .char c, .char hquote.1 hquote.2 (Nat.le_of_not_lt hcontrol) h⟩

theorem exists_spells_escaped (chars rest : List Char) :
    ∃ units, List.Forall₂ Stands units chars ∧
      Spells (chars.flatMap escapeChar ++ '\x22' :: rest) units rest := by
  induction chars with
  | nil => exact ⟨[], .nil, .close rest⟩
  | cons c chars ih =>
    obtain ⟨units, hunits, hspells⟩ := ih
    obtain ⟨u, hu, hmore⟩ := exists_spells_escapeChar c hspells
    refine ⟨u :: units, .cons hu hunits, ?_⟩
    rw [List.flatMap_cons, List.append_assoc]
    exact hmore

theorem textBefore?_of_stands {units : List CodeUnit} {chars : List Char}
    (h : List.Forall₂ Stands units chars) (after : List Char) :
    textBefore? after units = some (chars.reverse ++ after) := by
  induction h generalizing after with
  | nil => rfl
  | @cons u c units chars hu h ih =>
    rw [List.reverse_cons, List.append_assoc, List.singleton_append]
    cases hu with
    | char => rw [textBefore?, ih]
    | number hn hc =>
      subst hc
      rw [textBefore?_number (by omega), ih]

theorem text?_quote (s : String) (rest : List Char) :
    text? (s.toList.flatMap escapeChar ++ '\x22' :: rest) = some (some s, rest) := by
  obtain ⟨units, hunits, hspells⟩ := exists_spells_escaped s.toList rest
  refine text?_eq_some_iff.mpr ⟨units, hspells, ?_⟩
  rw [textBefore?_of_stands (List.forall₂_reverse_iff.mpr hunits), List.reverse_reverse,
    List.append_nil, Option.map_some, String.ofList_toList]

theorem toList_quote_append (s : String) (rest : List Char) :
    (quote s).toList ++ rest = '\x22' :: (s.toList.flatMap escapeChar ++ '\x22' :: rest) := by
  simp only [quote, String.toList_ofList, List.cons_append, List.append_assoc, List.nil_append]

/-! ### Numbers -/

theorem isBare_of_isNumberChar (h : IsNumberChar c) : IsBare c := by
  rcases h with hdigit | hmark
  · exact isBare_of_isDigit hdigit
  · simp only [List.mem_cons, List.not_mem_nil, or_false] at hmark
    rcases hmark with rfl | rfl | rfl | rfl | rfl | rfl | rfl <;> decide

theorem isBare_of_mem_scientific {digits : List Char} {e : Int}
    (hdigits : ∀ c ∈ digits, c.isDigit = true) (h : c ∈ Decimal.scientific digits e) :
    IsBare c := by
  have hpoint : IsBare '.' := by decide
  have hletter : IsBare 'e' := by decide
  have hminus : IsBare '-' := by decide
  have hplus : IsBare '+' := by decide
  unfold Decimal.scientific at h
  dsimp only at h
  rcases List.mem_append.mp h with hhead | hpower
  · split at hhead
    · cases hhead
    · exact isBare_of_isDigit (hdigits c hhead)
    · rcases List.mem_cons.mp hhead with rfl | hhead
      · exact isBare_of_isDigit (hdigits c List.mem_cons_self)
      · rcases List.mem_cons.mp hhead with rfl | hhead
        · exact hpoint
        · exact isBare_of_isDigit (hdigits c (List.mem_cons_of_mem _ hhead))
  · rcases List.mem_cons.mp hpower with rfl | hpower
    · exact hletter
    · rcases List.mem_cons.mp hpower with rfl | hpower
      · split
        · exact hminus
        · exact hplus
      · exact isBare_of_isDigit (Decimal.isDigit_of_mem_digits hpower)

theorem isBare_of_mem_print {layout : Binary64.Layout} {x : Binary64}
    (h : c ∈ (x.print layout).toList) : IsBare c := by
  cases x with
  | nan negative =>
    exact isBare_of_isNumberChar (isNumberChar_of_mem_nan c (by simpa [Binary64.print] using h))
  | infinite negative =>
    rw [Binary64.print, String.toList_ofList] at h
    rcases List.mem_append.mp h with h | h
    · exact isBare_of_isNumberChar (Decimal.isNumberChar_of_mem_sign h)
    · exact isBare_of_isNumberChar (isNumberChar_of_mem_infinity c h)
  | finite negative units hunits =>
    rw [Binary64.print, String.toList_ofList] at h
    have hdigits : ∀ d ∈ Decimal.digits (Binary64.shortestDecimal layout.tie units).1,
        d.isDigit = true := fun _ => Decimal.isDigit_of_mem_digits
    rcases List.mem_append.mp h with h | h
    · exact isBare_of_isNumberChar (Decimal.isNumberChar_of_mem_sign h)
    · split at h
      · rcases List.mem_append.mp h with h | h
        · exact isBare_of_isNumberChar (Decimal.isNumberChar_of_mem_positional hdigits h)
        · split at h
          · rcases List.mem_cons.mp h with rfl | h
            · decide
            · rw [List.mem_singleton.mp h]
              decide
          · cases h
      · exact isBare_of_mem_scientific hdigits h

theorem isBare_of_mem_integer {n : Int} (h : c ∈ (Decimal.integer n).toList) : IsBare c := by
  rw [Decimal.integer, String.toList_ofList] at h
  rcases List.mem_append.mp h with h | h
  · exact isBare_of_isNumberChar (Decimal.isNumberChar_of_mem_sign h)
  · exact isBare_of_isDigit (Decimal.isDigit_of_mem_digits h)

theorem not_isSpace_of_isBare (h : IsBare c) : isSpace c = false := by
  rw [Bool.eq_false_iff]
  intro hspace
  simp only [isSpace, Bool.or_eq_true, decide_eq_true_eq] at hspace
  rcases hspace with ((rfl | rfl) | rfl) | rfl <;> revert h <;> decide

/-- What has neither quotes nor brackets is read at once. -/
theorem exists_bare?_of_reads (h : Reads ⟨.value, [], cs⟩ v rest) (hrest : skipSpace rest = [])
    (hv : v.bracket? = none) (htext : ∀ text, v ≠ .string text) :
    bare? (skipSpace cs) = some (v, rest) := by
  rcases Relation.ReflTransGen.cases_head h with heq | ⟨t, hstep, ht⟩
  · cases heq
  cases hstep with
  | string hcs hread => exact absurd (eq_of_reads_after ht).1.symm (htext _)
  | noItems hcs hrest' =>
    rw [← (eq_of_reads_after ht).1] at hv
    cases hv
  | items hcs hrest' =>
    rw [(Reads.bracket? ht hrest rfl).1] at hv
    cases hv
  | noFields hcs hrest' =>
    rw [← (eq_of_reads_after ht).1] at hv
    cases hv
  | fields hcs hrest' =>
    rw [(Reads.bracket? ht hrest rfl).1] at hv
    cases hv
  | bare hcs hbare =>
    obtain ⟨rfl, rfl⟩ := eq_of_reads_after ht
    exact hbare

theorem exists_number_of_ofSource? {depth : Nat} (h : ofSource? depth v = some j)
    (hj : j.number?.isSome) : ∃ n, v = .number n ∧ n.value? = some j := by
  cases v with
  | number n => exact ⟨n, rfl, h⟩
  | null =>
    cases h
    cases hj
  | bool b =>
    cases h
    cases hj
  | string text =>
    obtain ⟨s, -, rfl⟩ := Option.map_eq_some_iff.mp h
    cases hj
  | array items =>
    obtain ⟨-, js, -, rfl⟩ := ofSource?_array_eq_some_iff.mp h
    cases hj
  | object fields =>
    obtain ⟨-, js, -, rfl⟩ := ofSource?_object_eq_some_iff.mp h
    cases hj

theorem skipSpace_cons (hc : isSpace c = false) (cs : List Char) :
    skipSpace (c :: cs) = c :: cs := by
  rw [skipSpace, List.dropWhile_cons_of_neg]
  rw [hc]
  exact Bool.false_ne_true

theorem skipSpace_eq_self (h : ∀ c ∈ cs.head?, isSpace c = false) : skipSpace cs = cs := by
  cases cs with
  | nil => rfl
  | cons c cs => exact skipSpace_cons (h c rfl) cs

/-- A text without blanks that has a number for its value is the number all through. -/
theorem exists_bare?_of_parseChars? (h : parseChars? cs = some j) (hj : j.number?.isSome)
    (hcs : ∀ c ∈ cs, IsBare c) : ∃ n, bare? cs = some (.number n, []) ∧ n.value? = some j := by
  obtain ⟨v, hv, hvalue⟩ := Option.bind_eq_some_iff.mp h
  obtain ⟨n, rfl, hn⟩ := exists_number_of_ofSource? hvalue hj
  obtain ⟨rest, hreads, hrest⟩ := ofText?_eq_some_iff.mp hv
  have hbare := exists_bare?_of_reads hreads hrest rfl (by simp)
  have hspace : ∀ c ∈ cs.head?, isSpace c = false := fun c hc =>
    not_isSpace_of_isBare (hcs c (List.mem_of_mem_head? hc))
  rw [skipSpace_eq_self hspace] at hbare
  have hnil : rest = [] := by
    obtain ⟨used, -, rfl, -⟩ := bare?_local hbare
    rw [List.eq_nil_iff_forall_not_mem]
    intro c hc
    have hspace := List.dropWhile_eq_nil_iff.mp hrest c hc
    rw [not_isSpace_of_isBare (hcs c (List.mem_append_right used hc))] at hspace
    cases hspace
  exact ⟨n, hnil ▸ hbare, hn⟩

/-! ### Values -/

/-- The text is read as the value, whatever is open and whatever follows. -/
def ReadsAs (text : List Char) (j : Json) : Prop :=
  ∃ v, (∀ depth, j.depth < depth → ofSource? depth v = some j) ∧
    ∀ frames rest, EndsNumber rest →
      Relation.ReflTransGen Step ⟨.value, frames, text ++ rest⟩ ⟨.after v, frames, rest⟩

theorem readsAs_bare (hbare : bare? text = some (v, []))
    (hv : ∀ depth, j.depth < depth → ofSource? depth v = some j) : ReadsAs text j := by
  refine ⟨v, hv, fun frames rest hrest => .single ?_⟩
  obtain ⟨used, hne, hused, hletters, hlocal⟩ := bare?_local hbare
  rw [List.append_nil] at hused
  subst hused
  obtain ⟨c, text, rfl⟩ := List.exists_cons_of_ne_nil hne
  have hc := hletters c List.mem_cons_self
  have hskip : skipSpace (c :: text ++ rest) = c :: text ++ rest :=
    skipSpace_cons (not_isSpace_of_isBare hc) (text ++ rest)
  refine .bare ?_ (hskip.symm ▸ hlocal rest hrest)
  rw [hskip]
  rintro d hd
  obtain rfl := Option.some.inj hd
  intro hmem
  simp only [List.mem_cons, List.not_mem_nil, or_false] at hmem
  rcases hmem with rfl | rfl | rfl <;> revert hc <;> decide

theorem readsAs_number (hj : j.number?.isSome) (htext : ∀ c ∈ j.print.toList, IsBare c)
    (h : j.ReadsBack) : ReadsAs j.print.toList j := by
  obtain ⟨n, hbare, hn⟩ := exists_bare?_of_parseChars? h hj htext
  exact readsAs_bare hbare fun depth _ => hn

theorem readsAs_quote (s : String) : ReadsAs (quote s).toList (.string s) := by
  refine ⟨.string (some s), fun depth _ => rfl, fun frames rest _ => .single ?_⟩
  rw [toList_quote_append]
  exact .string (skipSpace_cons rfl _) (text?_quote s rest)

variable {lead stop : List Char} {texts : List (List Char)}

theorem skipSpace_append (h : ∀ c ∈ blanks, isSpace c = true) (cs : List Char) :
    skipSpace (blanks ++ cs) = skipSpace cs :=
  List.dropWhile_append_of_pos h

theorem skipSpace_append_cons (h : ∀ c ∈ blanks, isSpace c = true) (hc : isSpace c = false)
    (cs : List Char) : skipSpace (blanks ++ c :: cs) = c :: cs := by
  rw [skipSpace_append h, skipSpace_cons hc]

theorem endsNumber_append_cons (h : ∀ c ∈ blanks, isSpace c = true)
    (hc : c ∈ [',', ']', '\x7d']) (cs : List Char) : EndsNumber (blanks ++ c :: cs) := by
  refine endsNumber_of_isClear fun d hd => ?_
  cases blanks with
  | nil =>
    obtain rfl := Option.some.inj hd
    exact .inr hc
  | cons b blanks =>
    obtain rfl := Option.some.inj hd
    exact .inl (h b List.mem_cons_self)

/-- No value begins with the bracket that closes an array. -/
theorem head_ne_of_steps {frames' : List Frame}
    (h : Relation.ReflTransGen Step ⟨.value, frames, cs⟩ ⟨.after v, frames', rest⟩) :
    ∀ c ∈ (skipSpace cs).head?, c ≠ ']' := by
  rcases Relation.ReflTransGen.cases_head h with heq | ⟨t, hstep, -⟩
  · cases heq
  have hhead {d : Char} {more : List Char} (hcs : skipSpace cs = d :: more) (hd : d ≠ ']') :
      ∀ c ∈ (skipSpace cs).head?, c ≠ ']' := by
    rw [hcs]
    intro c hc
    obtain rfl := Option.some.inj hc
    exact hd
  cases hstep with
  | string hcs htext => exact hhead hcs (by decide)
  | noItems hcs hrest => exact hhead hcs (by decide)
  | items hcs hrest => exact hhead hcs (by decide)
  | noFields hcs hrest => exact hhead hcs (by decide)
  | fields hcs hrest => exact hhead hcs (by decide)
  | bare hcs hbare =>
    obtain ⟨used, hne, hused, hletters, -⟩ := bare?_local hbare
    obtain ⟨d, used, rfl⟩ := List.exists_cons_of_ne_nil hne
    refine hhead hused ?_
    rintro rfl
    have hd := hletters ']' List.mem_cons_self
    revert hd
    decide

/-- Items that are read one by one are read between commas up to the bracket. -/
theorem exists_items_of_readsAs {js : List Json} (h : List.Forall₂ ReadsAs texts js)
    (hne : texts ≠ []) (hlead : ∀ c ∈ lead, isSpace c = true)
    (hstop : ∀ c ∈ stop, isSpace c = true) :
    ∃ vs, (∀ depth, depthItems js < depth → ofItems? depth vs = some js) ∧
      ∀ before frames rest, Relation.ReflTransGen Step
        ⟨.value, .items before :: frames,
          lead ++ ((',' :: lead).intercalate texts ++ (stop ++ ']' :: rest))⟩
        ⟨.after (.array (before.reverse ++ vs)), frames, rest⟩ := by
  induction h with
  | nil => exact absurd rfl hne
  | @cons text j texts js htext h ih =>
    obtain ⟨v, hv, hread⟩ := htext
    cases h with
    | nil =>
      refine ⟨[v], ?_, ?_⟩
      · intro depth hdepth
        rw [depthItems, depthItems, Nat.max_zero] at hdepth
        simp [ofItems?, hv depth hdepth]
      · intro before frames rest
        have hclose : EndsNumber (stop ++ ']' :: rest) :=
          endsNumber_append_cons hstop (by decide) rest
        have hvalue := hread (.items before :: frames) _ hclose
        rw [List.intercalate_singleton, ← List.reverse_cons]
        exact (steps_of_skipSpace_eq hvalue (skipSpace_append hlead _)).tail
          (.lastItem (skipSpace_append_cons hstop rfl rest))
    | @cons second j' more js' hsecond hmore =>
      obtain ⟨vs, hvs, hrest⟩ := ih (List.cons_ne_nil _ _)
      refine ⟨v :: vs, ?_, ?_⟩
      · intro depth hdepth
        rw [depthItems] at hdepth
        have hfirst := hv depth (by omega)
        have hothers := hvs depth (by omega)
        rw [ofItems?, hfirst, hothers]
        rfl
      · intro before frames rest
        have hcomma : EndsNumber (',' :: (lead ++ ((',' :: lead).intercalate (second :: more) ++
            (stop ++ ']' :: rest)))) := endsNumber_append_cons (List.forall_mem_nil _) (by decide) _
        have hvalue := hread (.items before :: frames) _ hcomma
        have hnext := hrest (v :: before) frames rest
        rw [List.reverse_cons, List.append_assoc, List.singleton_append] at hnext
        rw [List.intercalate_cons_cons, List.append_assoc, List.append_assoc]
        exact ((steps_of_skipSpace_eq hvalue (skipSpace_append hlead _)).tail (.nextItem rfl)).trans
          hnext

/-- A name, a colon and a text that is read as the value of the field. -/
def ReadsAsField (text : List Char) (field : String × Json) : Prop :=
  ∃ value, text = (quote field.1).toList ++ ':' :: ' ' :: value ∧ ReadsAs value field.2

theorem step_name {name : String} {before : List (Option String × Source)}
    (hlead : ∀ c ∈ lead, isSpace c = true) (more : List Char) :
    Step ⟨.name before, frames, lead ++ ((quote name).toList ++ ':' :: more)⟩
      ⟨.value, .fields before (some name) :: frames, more⟩ := by
  rw [toList_quote_append]
  exact .name (skipSpace_append_cons hlead rfl _) (text?_quote name _) rfl

theorem exists_quote_of_readsAsField {fields : List (String × Json)}
    (h : List.Forall₂ ReadsAsField texts fields) (hne : texts ≠ []) (lead more : List Char) :
    ∃ rest, (',' :: lead).intercalate texts ++ more = '\x22' :: rest := by
  cases h with
  | nil => exact absurd rfl hne
  | @cons text field texts fields htext h =>
    obtain ⟨value, rfl, -⟩ := htext
    cases h with
    | nil =>
      rw [List.intercalate_singleton, List.append_assoc, toList_quote_append]
      exact ⟨_, rfl⟩
    | cons hsecond hmore =>
      rw [List.intercalate_cons_cons, List.append_assoc, List.append_assoc, List.append_assoc,
        toList_quote_append]
      exact ⟨_, rfl⟩

/-- Fields that are read one by one are read between commas up to the brace. -/
theorem exists_fields_of_readsAs {fields : List (String × Json)}
    (h : List.Forall₂ ReadsAsField texts fields) (hne : texts ≠ [])
    (hlead : ∀ c ∈ lead, isSpace c = true) (hstop : ∀ c ∈ stop, isSpace c = true) :
    ∃ vs, (∀ depth, depthFields fields < depth → ofFields? depth vs = some fields) ∧
      ∀ start, (∀ c ∈ start, isSpace c = true) → ∀ before frames rest,
        Relation.ReflTransGen Step
          ⟨.name before, frames,
            start ++ ((',' :: lead).intercalate texts ++ (stop ++ '\x7d' :: rest))⟩
          ⟨.after (.object (before.reverse ++ vs)), frames, rest⟩ := by
  induction h with
  | nil => exact absurd rfl hne
  | @cons text field texts fields htext h ih =>
    obtain ⟨name, j⟩ := field
    obtain ⟨value, rfl, v, hv, hread⟩ := htext
    dsimp only at hv
    have hblank : ∀ c ∈ [' '], isSpace c = true := List.forall_mem_singleton.mpr rfl
    cases h with
    | nil =>
      refine ⟨[(some name, v)], ?_, ?_⟩
      · intro depth hdepth
        rw [depthFields, depthFields, Nat.max_zero] at hdepth
        simp [ofFields?, hv depth hdepth]
      · intro start hstart before frames rest
        have hclose : EndsNumber (stop ++ '\x7d' :: rest) :=
          endsNumber_append_cons hstop (by decide) rest
        have hvalue := hread (.fields before (some name) :: frames) _ hclose
        rw [List.intercalate_singleton, ← List.reverse_cons, List.append_assoc]
        exact (Relation.ReflTransGen.head (step_name hstart _)
          (steps_of_skipSpace_eq hvalue (skipSpace_append hblank _))).tail
          (.lastField (skipSpace_append_cons hstop rfl rest))
    | @cons second field' more fields' hsecond hmore =>
      obtain ⟨vs, hvs, hrest⟩ := ih (List.cons_ne_nil _ _)
      refine ⟨(some name, v) :: vs, ?_, ?_⟩
      · intro depth hdepth
        rw [depthFields] at hdepth
        have hfirst := hv depth (by omega)
        have hothers := hvs depth (by omega)
        rw [ofFields?, hfirst, hothers]
        rfl
      · intro start hstart before frames rest
        have hcomma : EndsNumber (',' :: (lead ++ ((',' :: lead).intercalate (second :: more) ++
            (stop ++ '\x7d' :: rest)))) :=
          endsNumber_append_cons (List.forall_mem_nil _) (by decide) _
        have hvalue := hread (.fields before (some name) :: frames) _ hcomma
        have hnext := hrest lead hlead ((some name, v) :: before) frames rest
        rw [List.reverse_cons, List.append_assoc, List.singleton_append] at hnext
        rw [List.intercalate_cons_cons, List.append_assoc, List.append_assoc, List.append_assoc]
        exact ((Relation.ReflTransGen.head (step_name hstart _)
          (steps_of_skipSpace_eq hvalue (skipSpace_append hblank _))).tail (.nextField rfl)).trans
          hnext

/-! ### Printed values -/

theorem isSpace_of_mem_indentation {d : Nat} (h : c ∈ (indentation d).toList) :
    isSpace c = true := by
  rw [indentation, String.toList_ofList] at h
  rcases List.mem_cons.mp h with rfl | h
  · rfl
  · rw [List.eq_of_mem_replicate h]
    rfl

theorem toList_block {d : Nat} {opening closing : String} {items : List String} (h : items ≠ []) :
    (block d opening closing items).toList = opening.toList ++ ((indentation (d + 1)).toList ++
      ((',' :: (indentation (d + 1)).toList).intercalate (items.map String.toList) ++
        ((indentation d).toList ++ closing.toList))) := by
  rw [block, if_neg (by simpa using h)]
  simp only [String.toList_append, String.toList_intercalate, List.append_assoc]
  rfl

theorem readsAs_array {js : List Json} {items : List String} (d : Nat)
    (h : List.Forall₂ ReadsAs (items.map String.toList) js) :
    ReadsAs (block d "[" "]" items).toList (.array js) := by
  by_cases hitems : items = []
  · subst hitems
    cases h
    refine ⟨.array [], ?_, ?_⟩
    · intro depth hdepth
      exact ofSource?_array_eq_some_iff.mpr ⟨by rw [Json.depth] at hdepth; omega, [], rfl, rfl⟩
    · intro frames rest _
      rw [block, if_pos List.isEmpty_nil]
      exact .single (.noItems rfl rfl)
  · have hlead : ∀ c ∈ (indentation (d + 1)).toList, isSpace c = true := fun c =>
      isSpace_of_mem_indentation
    have hstop : ∀ c ∈ (indentation d).toList, isSpace c = true := fun c =>
      isSpace_of_mem_indentation
    obtain ⟨vs, hvs, hread⟩ := exists_items_of_readsAs h (by simpa using hitems) hlead hstop
    refine ⟨.array vs, ?_, ?_⟩
    · intro depth hdepth
      rw [Json.depth] at hdepth
      exact ofSource?_array_eq_some_iff.mpr ⟨by omega, js, hvs _ (by omega), rfl⟩
    · intro frames rest _
      have hitem := hread [] frames rest
      rw [toList_block hitems]
      simp only [List.append_assoc]
      have hopen := head_ne_of_steps hitem
      exact .head (.items rfl hopen) (steps_of_skipSpace_eq hitem (skipSpace_skipSpace _))

theorem readsAs_object {fields : List (String × Json)} {items : List String} (d : Nat)
    (h : List.Forall₂ ReadsAsField (items.map String.toList) fields) :
    ReadsAs (block d "\x7b" "\x7d" items).toList (.object fields) := by
  by_cases hitems : items = []
  · subst hitems
    cases h
    refine ⟨.object [], ?_, ?_⟩
    · intro depth hdepth
      exact ofSource?_object_eq_some_iff.mpr ⟨by rw [Json.depth] at hdepth; omega, [], rfl, rfl⟩
    · intro frames rest _
      rw [block, if_pos List.isEmpty_nil]
      exact .single (.noFields rfl rfl)
  · have hlead : ∀ c ∈ (indentation (d + 1)).toList, isSpace c = true := fun c =>
      isSpace_of_mem_indentation
    have hstop : ∀ c ∈ (indentation d).toList, isSpace c = true := fun c =>
      isSpace_of_mem_indentation
    obtain ⟨vs, hvs, hread⟩ := exists_fields_of_readsAs h (by simpa using hitems) hlead hstop
    refine ⟨.object vs, ?_, ?_⟩
    · intro depth hdepth
      rw [Json.depth] at hdepth
      exact ofSource?_object_eq_some_iff.mpr ⟨by omega, fields, hvs _ (by omega), rfl⟩
    · intro frames rest _
      have hfield := hread [] (List.forall_mem_nil _) [] frames rest
      rw [List.nil_append] at hfield
      obtain ⟨more, hmore⟩ := exists_quote_of_readsAsField h (by simpa using hitems)
        (indentation (d + 1)).toList ((indentation d).toList ++ '\x7d' :: rest)
      have hskip : skipSpace ((indentation (d + 1)).toList ++ '\x22' :: more) = '\x22' :: more :=
        skipSpace_append_cons hlead rfl more
      have htext : (block d "\x7b" "\x7d" items).toList ++ rest =
          '\x7b' :: ((indentation (d + 1)).toList ++ '\x22' :: more) := by
        rw [toList_block hitems, ← hmore]
        simp only [List.append_assoc]
        rfl
      have hopen : ∀ c ∈ (skipSpace ((indentation (d + 1)).toList ++ '\x22' :: more)).head?,
          c ≠ '\x7d' := by
        rw [hskip]
        intro c hc
        obtain rfl := Option.some.inj hc
        decide
      rw [htext]
      refine .head (.fields rfl hopen) ?_
      rw [hskip, ← hmore]
      exact hfield

theorem bare?_null : bare? "null".toList = some (.null, []) :=
  rfl

theorem bare?_bool (b : Bool) :
    bare? (if b then "true" else "false" : String).toList = some (.bool b, []) := by
  cases b <;> rfl

mutual

/-- A value is read as it is printed, if its numbers are. -/
theorem readsAs_pretty (d : Nat) (j : Json) (h : ∀ leaf ∈ j.numbers, leaf.ReadsBack) :
    ReadsAs (pretty d j).toList j := by
  cases j with
  | null => exact readsAs_bare bare?_null fun depth _ => rfl
  | bool b => exact readsAs_bare (bare?_bool b) fun depth _ => rfl
  | integer n =>
    exact readsAs_number rfl (fun c => isBare_of_mem_integer) (h _ List.mem_cons_self)
  | real x => exact readsAs_number rfl (fun c => isBare_of_mem_print) (h _ List.mem_cons_self)
  | string s => exact readsAs_quote s
  | array items => exact readsAs_array d (readsAs_prettyItems (d + 1) items h)
  | object fields => exact readsAs_object d (readsAs_prettyFields (d + 1) fields h)

theorem readsAs_prettyItems (d : Nat) (items : List Json)
    (h : ∀ leaf ∈ numbersItems items, leaf.ReadsBack) :
    List.Forall₂ ReadsAs ((prettyItems d items).map String.toList) items := by
  cases items with
  | nil => exact .nil
  | cons j items =>
    rw [numbersItems, List.forall_mem_append] at h
    exact .cons (readsAs_pretty d j h.1) (readsAs_prettyItems d items h.2)

theorem readsAs_prettyFields (d : Nat) (fields : List (String × Json))
    (h : ∀ leaf ∈ numbersFields fields, leaf.ReadsBack) :
    List.Forall₂ ReadsAsField ((prettyFields d fields).map String.toList) fields := by
  cases fields with
  | nil => exact .nil
  | cons field fields =>
    obtain ⟨name, j⟩ := field
    rw [numbersFields, List.forall_mem_append] at h
    refine .cons ⟨(pretty d j).toList, ?_, readsAs_pretty d j h.1⟩
      (readsAs_prettyFields d fields h.2)
    rw [String.toList_append, String.toList_append, List.append_assoc]
    rfl

end

end Source

/-- What is printed reads back, with blanks behind it. -/
theorem parseChars?_pretty {j : Json} (hnumbers : ∀ leaf ∈ j.numbers, leaf.ReadsBack)
    (hdepth : j.depth < depthLimit) {blanks : List Char}
    (hblanks : ∀ c ∈ blanks, Source.isSpace c = true) :
    parseChars? ((pretty 0 j).toList ++ blanks) = some j := by
  obtain ⟨v, hv, hread⟩ := Source.readsAs_pretty 0 j hnumbers
  have hends : Source.EndsNumber blanks := by
    refine Source.endsNumber_of_isClear fun c hc => .inl (hblanks c (List.mem_of_mem_head? hc))
  have hreads := hread [] blanks hends
  have htext := Source.ofText?_eq_some_iff.mpr
    ⟨blanks, hreads, List.dropWhile_eq_nil_iff.mpr hblanks⟩
  exact Option.bind_eq_some_iff.mpr ⟨v, htext, hv depthLimit hdepth⟩

end Montage.Json
