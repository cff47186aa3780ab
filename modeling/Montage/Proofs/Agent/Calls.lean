import Montage.Agent.Action
import Montage.Proofs.Number.Decimal
import Montage.Proofs.Text.Removal

/-! Calls of a tool read back. Whatever an argument holds between its quotes comes out of the call
unharmed, other quotes, commas and parentheses among it. -/
namespace Montage

/-! ### Arguments as they are written -/

namespace Agent

/-- An argument of a call, as it stands or between quotes. -/
inductive Argument
  | bare (cs : List Char)
  | quoted (quote : Char) (cs : List Char)

namespace Argument

def content : Argument → List Char
  | bare cs => cs
  | quoted _ cs => cs

def written : Argument → List Char
  | bare cs => cs
  | quoted quote cs => quote :: cs ++ [quote]

def IsQuote (c : Char) : Prop :=
  c = '\x22' ∨ c = '\x27'

instance : DecidablePred IsQuote := fun c => inferInstanceAs (Decidable (c = '\x22' ∨ c = '\x27'))

/-- Nothing in the argument ends it. -/
def IsWhole : Argument → Prop
  | bare cs => ∀ c ∈ cs, ¬ IsQuote c ∧ c ≠ ','
  | quoted quote cs => IsQuote quote ∧ quote ∉ cs

end Argument

/-- A call with a space after each comma. -/
def callText (name : String) (args : List Argument) : List Char :=
  name.toList ++ '(' :: ([',', ' '].intercalate (args.map Argument.written) ++ [')'])

/-! ### Arguments as they are read -/

variable {quote : Char} {cs piece rest : List Char} {a : Argument}

theorem pieces_bare (h : ∀ c ∈ cs, ¬ Argument.IsQuote c ∧ c ≠ ',') (piece rest : List Char) :
    pieces none piece (cs ++ rest) = pieces none (cs.reverse ++ piece) rest := by
  induction cs generalizing piece with
  | nil => rfl
  | cons c cs ih =>
    obtain ⟨hquote, hcomma⟩ := h c List.mem_cons_self
    have hrest := ih (fun d hd => h d (List.mem_cons_of_mem c hd)) (c :: piece)
    rw [Argument.IsQuote] at hquote
    rw [List.cons_append, pieces]
    simp only [if_neg hquote, if_neg hcomma, hrest, List.reverse_cons, List.append_assoc,
      List.singleton_append]

/-- Between quotes only the same quote counts. -/
theorem pieces_inside (h : quote ∉ cs) (piece rest : List Char) :
    pieces (some quote) piece (cs ++ quote :: rest) = pieces none (cs.reverse ++ piece) rest := by
  induction cs generalizing piece with
  | nil => simp [pieces]
  | cons c cs ih =>
    have hc : c ≠ quote := fun heq => h (heq ▸ List.mem_cons_self)
    have hrest := ih (fun hmem => h (List.mem_cons_of_mem c hmem)) (c :: piece)
    rw [List.cons_append, pieces]
    simp only [if_neg hc, hrest, List.reverse_cons, List.append_assoc, List.singleton_append]

theorem pieces_written (h : a.IsWhole) (piece rest : List Char) :
    pieces none piece (a.written ++ rest) = pieces none (a.content.reverse ++ piece) rest := by
  cases a with
  | bare cs => exact pieces_bare h piece rest
  | quoted quote cs =>
    obtain ⟨hquote, hcs⟩ := h
    have hinside := pieces_inside hcs piece rest
    rw [Argument.written, List.cons_append, List.cons_append, pieces, List.append_assoc]
    rw [Argument.IsQuote] at hquote
    simp only [if_pos hquote]
    exact hinside

theorem pieces_comma (piece rest : List Char) :
    pieces none piece (',' :: rest) = Text.trim piece.reverse :: pieces none [] rest := by
  simp [pieces]

theorem pieces_space (piece rest : List Char) :
    pieces none piece (' ' :: rest) = pieces none (' ' :: piece) rest := by
  simp [pieces]

/-- Blanks in front of an argument are no part of it. -/
theorem trim_reverse_append {blanks : List Char} (h : ∀ c ∈ blanks, Text.isBlank c = true)
    (cs : List Char) : Text.trim (cs.reverse ++ blanks).reverse = Text.trim cs := by
  rw [List.reverse_append, List.reverse_reverse]
  exact Text.trim_append_left (fun c hc => h c (List.mem_reverse.mp hc)) cs

theorem pieces_intercalate {blanks : List Char} (hblanks : ∀ c ∈ blanks, Text.isBlank c = true)
    (first : Argument) (more : List Argument) (h : ∀ a ∈ first :: more, a.IsWhole) :
    pieces none blanks ([',', ' '].intercalate ((first :: more).map Argument.written)) =
      (first :: more).map fun a => Text.trim a.content := by
  induction more generalizing first blanks with
  | nil =>
    have hfirst := pieces_written (h first List.mem_cons_self) blanks []
    rw [List.append_nil] at hfirst
    rw [List.map_singleton, List.map_singleton, List.intercalate_singleton, hfirst, pieces,
      trim_reverse_append hblanks]
  | cons second more ih =>
    have hspace : ∀ c ∈ [' '], Text.isBlank c = true := List.forall_mem_singleton.mpr rfl
    have hrest := ih hspace second fun a ha => h a (List.mem_cons_of_mem first ha)
    rw [List.map_cons, List.map_cons, List.intercalate_cons_cons, List.append_assoc,
      pieces_written (h first List.mem_cons_self), List.cons_append, List.singleton_append,
      pieces_comma, pieces_space, trim_reverse_append hblanks, ← List.map_cons, hrest]
    rfl

/-- The arguments of a call are what was meant, without the blanks at their ends. -/
theorem arguments_intercalate {first : Argument} {more : List Argument}
    (h : ∀ a ∈ first :: more, a.IsWhole) (hne : Text.trim first.content ≠ []) :
    arguments ([',', ' '].intercalate ((first :: more).map Argument.written)) =
      (first :: more).map fun a => Text.trim a.content := by
  have hblanks : ∀ c ∈ ([] : List Char), Text.isBlank c = true := by simp
  rw [arguments, pieces_intercalate hblanks first more h]
  split
  · rename_i hnone
    exact absurd (List.cons.inj hnone).1 hne
  · rfl

/-! ### Calls as they are read -/

/-- The last parenthesis closes the call, whatever stands between the two. -/
theorem call?_callText {name : String} {args : List Argument} (hname : '(' ∉ name.toList) :
    call? (callText name args) = some (String.ofList (Text.trim name.toList),
      arguments ([',', ' '].intercalate (args.map Argument.written))) := by
  have hopen : ∀ c ∈ name.toList, decide (c ≠ '(') = true := by
    intro c hc
    rw [decide_eq_true_eq]
    rintro rfl
    exact hname hc
  have htake : (callText name args).takeWhile (· ≠ '(') = name.toList := by
    rw [callText, List.takeWhile_append_of_pos hopen]
    simp
  have hdrop : (callText name args).dropWhile (· ≠ '(') =
      '(' :: ([',', ' '].intercalate (args.map Argument.written) ++ [')']) := by
    rw [callText, List.dropWhile_append_of_pos hopen]
    rfl
  rw [call?, hdrop, htake]
  simp

/-- What may stand in front of a call: blanks, and among them the word that announces it. -/
def IsLead (before : List Char) : Prop :=
  (∀ c ∈ before, Text.isBlank c = true) ∨
    ∃ outer inner, before = outer ++ "Action:".toList ++ inner ∧
      (∀ c ∈ outer, Text.isBlank c = true) ∧ ∀ c ∈ inner, Text.isBlank c = true

theorem withoutMark_of_not_prefix {mark : List Char} (h : mark.isPrefixOf cs = false) :
    withoutMark mark cs = cs := by
  rw [withoutMark, h]
  rfl

theorem withoutMark_append (mark cs : List Char) : withoutMark mark (mark ++ cs) = cs := by
  have hprefix : mark.isPrefixOf (mark ++ cs) = true :=
    List.isPrefixOf_iff_prefix.mpr (List.prefix_append mark cs)
  rw [withoutMark, if_pos hprefix, List.drop_left]

/-- The call is found between whatever surrounds it. -/
theorem call_surrounded {call before after : List Char} (hcall : Text.IsTrimmed call)
    (hmark : "Action:".toList.isPrefixOf call = false) (hne : call ≠ []) (hbefore : IsLead before)
    (hafter : ∀ c ∈ after, Text.isBlank c = true) :
    Text.trim (withoutMark "Action:".toList (Text.trim (before ++ call ++ after))) = call := by
  rcases hbefore with hblank | ⟨outer, inner, rfl, houter, hinner⟩
  · rw [Text.trim_surrounded hblank hafter hcall, withoutMark_of_not_prefix hmark,
      Text.trim_of_isTrimmed hcall]
  · have hmarked : Text.IsTrimmed ("Action:".toList ++ (inner ++ call)) := by
      refine ⟨by simp [Text.isBlank, Text.blankRanges, Text.Ranges.holds], ?_⟩
      intro c hc
      rw [List.getLast?_append, List.getLast?_append, Option.mem_def,
        List.getLast?_eq_some_getLast hne] at hc
      exact hcall.last c (List.getLast?_eq_some_getLast hne ▸ hc)
    have hsplit : outer ++ "Action:".toList ++ inner ++ call ++ after =
        outer ++ ("Action:".toList ++ (inner ++ call)) ++ after := by
      simp only [List.append_assoc]
    rw [hsplit, Text.trim_surrounded houter hafter hmarked, withoutMark_append,
      Text.trim_append_left hinner, Text.trim_of_isTrimmed hcall]

/-! ### What the arguments say -/

/-- Digits that stand for a finite number. -/
def IsNumeral (cs : List Char) (x : Binary64) : Prop :=
  Numeral.real? cs = some x ∧ Scalar.isFinite x = true

variable {x y z : Binary64}

theorem IsNumeral.ne_nil (h : IsNumeral cs x) : cs ≠ [] := by
  rintro rfl
  cases h.1

theorem not_isBlank_of_isMark {c : Char} (h : Numeral.IsMark c) : Text.isBlank c = false := by
  rcases h with hdigit | hmark
  · have hbounds : 48 ≤ c.toNat ∧ c.toNat ≤ 57 := by
      simp only [Char.isDigit, Bool.and_eq_true, decide_eq_true_eq, ge_iff_le,
        UInt32.le_iff_toNat_le] at hdigit
      exact hdigit
    simp [Text.isBlank, Text.blankRanges, Text.Ranges.holds]
    omega
  · simp only [List.mem_cons, List.not_mem_nil, or_false] at hmark
    rcases hmark with rfl | rfl | rfl | rfl | rfl <;> rfl

theorem IsNumeral.trim (h : IsNumeral cs x) : Text.trim cs = cs := by
  have hmark : ∀ c ∈ cs, Text.isBlank c = false := fun c hc =>
    not_isBlank_of_isMark (Numeral.isMark_of_real? h.1 h.2 hc)
  exact Text.trim_of_isTrimmed ⟨fun c hc => hmark c (List.mem_of_mem_head? hc),
    fun c hc => hmark c (List.mem_of_mem_getLast? hc)⟩

theorem IsNumeral.isWhole (h : IsNumeral cs x) : (Argument.bare cs).IsWhole := by
  intro c hc
  rcases Numeral.isMark_of_real? h.1 h.2 hc with hdigit | hmark
  · constructor
    · rintro (rfl | rfl)
      · cases hdigit
      · cases hdigit
    · rintro rfl
      cases hdigit
  · simp only [List.mem_cons, List.not_mem_nil, or_false] at hmark
    rcases hmark with rfl | rfl | rfl | rfl | rfl <;> decide

theorem numberAt?_of_isNumeral {args : List (List Char)} {index : Nat}
    (hargs : args[index]? = some cs) (h : IsNumeral cs x) : numberAt? args index = some x := by
  rw [numberAt?, hargs, Option.bind_some, h.1, Option.filter_some, if_pos h.2]

theorem textAt?_of_ne_nil {args : List (List Char)} {index : Nat}
    (hargs : args[index]? = some cs) (h : cs ≠ []) :
    textAt? args index = some (String.ofList cs) := by
  rw [textAt?, hargs, Option.filter_some, if_pos (by simpa using h)]
  rfl

end Agent

/-! ### Words for positions -/

/-- A character that is its own lower case stays in the word. -/
theorem Text.mem_lowerFrom {c : Char} (hlower : lowerChar c = [c]) (hsigma : c.toNat ≠ 931)
    {cs : List Char} (h : c ∈ cs) (before : List Char) : c ∈ lowerFrom before cs := by
  induction cs generalizing before with
  | nil => cases h
  | cons d cs ih =>
    rw [lowerFrom]
    rcases List.mem_cons.mp h with rfl | h
    · apply List.mem_append_left
      rw [if_neg hsigma, hlower]
      exact List.mem_singleton_self c
    · exact List.mem_append_right _ (ih h _)

theorem Text.mem_word {c : Char} (hlower : lowerChar c = [c]) (hsigma : c.toNat ≠ 931)
    (hblank : isBlank c = false) {s : String} (h : c ∈ s.toList) : c ∈ (word s).toList := by
  rw [word, String.toList_ofList]
  exact mem_lowerFrom hlower hsigma (mem_trim h hblank) []

theorem Text.word_trim (s : String) : word (String.ofList (trim s.toList)) = word s := by
  rw [word, String.toList_ofList, trim_trim, word]

namespace TextPosition

variable {s : String} {position : TextPosition}

theorem word_of_parse? (h : parse? s = some position) :
    Text.word s ∈ ["top", "center", "centre", "middle", "bottom"] := by
  unfold parse? at h
  split at h <;> simp_all

theorem parse?_trim (s : String) : parse? (String.ofList (Text.trim s.toList)) = parse? s := by
  rw [parse?, Text.word_trim, parse?]

theorem trim_ne_nil_of_parse? (h : parse? s = some position) : Text.trim s.toList ≠ [] := by
  intro hnil
  have hword := word_of_parse? h
  rw [Text.word, hnil] at hword
  revert hword
  decide

theorem quote_notMem_of_parse? {quote : Char} (h : parse? s = some position)
    (hquote : Agent.Argument.IsQuote quote) : quote ∉ s.toList := by
  intro hmem
  have hword := word_of_parse? h
  have hkept : quote ∈ (Text.word s).toList := by
    rcases hquote with rfl | rfl
    · exact Text.mem_word (by decide +kernel) (by decide) (by decide) hmem
    · exact Text.mem_word (by decide +kernel) (by decide) (by decide) hmem
  generalize Text.word s = word at hword hkept
  rcases hquote with rfl | rfl
  · revert word
    decide
  · revert word
    decide

end TextPosition

namespace Agent

variable {quote : Char} {before after : List Char} {name : String} {args : List Argument}

/-- A name that is not taken for anything else in front of a call. -/
structure IsName (name : String) : Prop where
  ne_nil : name.toList ≠ []
  head : ∀ c ∈ name.toList.head?, Text.isBlank c = false ∧ c ≠ 'A'
  trim : Text.trim name.toList = name.toList
  unopened : '(' ∉ name.toList

theorem isTrimmed_callText (h : IsName name) (args : List Argument) :
    Text.IsTrimmed (callText name args) where
  head := by
    intro c hc
    obtain ⟨d, rest, hname⟩ := List.exists_cons_of_ne_nil h.ne_nil
    have hd := h.head d (by rw [hname]; rfl)
    rw [callText, hname] at hc
    obtain rfl : d = c := Option.some.inj hc
    exact hd.1
  last := by
    intro c hc
    rw [callText, ← List.cons_append, ← List.append_assoc, List.getLast?_concat] at hc
    obtain rfl : ')' = c := Option.some.inj hc
    decide

theorem not_isPrefixOf_callText (h : IsName name) (args : List Argument) :
    "Action:".toList.isPrefixOf (callText name args) = false := by
  obtain ⟨c, rest, hname⟩ := List.exists_cons_of_ne_nil h.ne_nil
  have hc : 'A' ≠ c := (h.head c (by rw [hname]; rfl)).2.symm
  rw [callText, hname, ← Bool.not_eq_true, List.isPrefixOf_iff_prefix]
  intro hprefix
  exact hc (List.cons_prefix_cons.mp hprefix).1

/-- What surrounds a call does not change what it stands for. -/
theorem call?_surrounded (hname : IsName name) (hbefore : IsLead before)
    (hafter : ∀ c ∈ after, Text.isBlank c = true) {first : Argument} {more : List Argument}
    (hwhole : ∀ a ∈ first :: more, a.IsWhole) (hfirst : Text.trim first.content ≠ [])
    {action : String} (haction : action.toList = before ++ callText name (first :: more) ++ after) :
    call? (Text.trim (withoutMark "Action:".toList (Text.trim action.toList))) =
      some (name, (first :: more).map fun a => Text.trim a.content) := by
  have hne : callText name (first :: more) ≠ [] := by simp [callText]
  rw [haction, call_surrounded (isTrimmed_callText hname _) (not_isPrefixOf_callText hname _) hne
    hbefore hafter, call?_callText hname.unopened, hname.trim, String.ofList_toList,
    arguments_intercalate hwhole hfirst]

theorem isName_addText : IsName "add_text" where
  ne_nil := by decide
  head := by
    rintro c hc
    obtain rfl := Option.some.inj hc
    decide
  trim := by decide
  unopened := by decide

theorem isName_addMusic : IsName "add_bgm" where
  ne_nil := by decide
  head := by
    rintro c hc
    obtain rfl := Option.some.inj hc
    decide
  trim := by decide
  unopened := by decide

theorem spanAt?_of_isNumeral {start stop : List Char} (hstart : IsNumeral start x)
    (hstop : IsNumeral stop y) (more : List (List Char)) :
    spanAt? (start :: stop :: more) = some ⟨x, y⟩ := by
  have hfirst : numberAt? (start :: stop :: more) 0 = some x := numberAt?_of_isNumeral rfl hstart
  have hsecond : numberAt? (start :: stop :: more) 1 = some y := numberAt?_of_isNumeral rfl hstop
  rw [spanAt?, hfirst, hsecond]
  rfl

theorem textAt?_of_words {words : String} (hne : words ≠ "") {args : List (List Char)}
    {index : Nat} (hargs : args[index]? = some words.toList) :
    textAt? args index = some words := by
  rw [textAt?_of_ne_nil hargs (mt String.toList_eq_nil_iff.mp hne), String.ofList_toList]

/-- A caption comes out of its call with its words, its window and its place. -/
theorem action?_addText (hquote : Argument.IsQuote quote) {words place : String}
    (hne : words ≠ "") (hwords : quote ∉ words.toList) (htrimmed : Text.IsTrimmed words.toList)
    {start stop : List Char} (hstart : IsNumeral start x) (hstop : IsNumeral stop y)
    {position : TextPosition} (hplace : TextPosition.parse? place = some position)
    (hbefore : IsLead before) (hafter : ∀ c ∈ after, Text.isBlank c = true) {action : String}
    (haction : action.toList = before ++ callText "add_text" [.bare start, .bare stop,
      .quoted quote words.toList, .quoted quote place.toList] ++ after) :
    action? action = some (.text ⟨x, y⟩ words position) := by
  have hwhole : ∀ a ∈ [Argument.bare start, .bare stop, .quoted quote words.toList,
      .quoted quote place.toList], a.IsWhole := by
    simp only [List.forall_mem_cons, List.not_mem_nil, false_implies, implies_true, and_true]
    exact ⟨hstart.isWhole, hstop.isWhole, ⟨hquote, hwords⟩, hquote,
      TextPosition.quote_notMem_of_parse? hplace hquote⟩
  have hfirst : Text.trim (Argument.bare start).content ≠ [] := by
    rw [Argument.content, hstart.trim]
    exact hstart.ne_nil
  have hcall := call?_surrounded isName_addText hbefore hafter hwhole hfirst haction
  simp only [List.map_cons, List.map_nil, Argument.content, hstart.trim, hstop.trim,
    Text.trim_of_isTrimmed htrimmed] at hcall
  have hwordsAt (more : List (List Char)) :
      textAt? (start :: stop :: words.toList :: more) 2 = some words := textAt?_of_words hne rfl
  have hplaceAt (more : List (List Char)) :
      (textAt? (start :: stop :: words.toList :: Text.trim place.toList :: more) 3).bind
        TextPosition.parse? = some position := by
    rw [textAt?_of_ne_nil rfl (TextPosition.trim_ne_nil_of_parse? hplace),
      Option.bind_some, TextPosition.parse?_trim, hplace]
  rw [action?, hcall]
  simp only [Option.bind_eq_bind, Option.bind_some, spanAt?_of_isNumeral hstart hstop, hwordsAt,
    hplaceAt, Option.getD_some]

/-- Music comes out of its call with what it was asked for. -/
theorem action?_addMusic (hquote : Argument.IsQuote quote) {words : String} (hne : words ≠ "")
    (hwords : quote ∉ words.toList) (htrimmed : Text.IsTrimmed words.toList)
    {more : List Argument} (hmore : ∀ a ∈ more, a.IsWhole) (hbefore : IsLead before)
    (hafter : ∀ c ∈ after, Text.isBlank c = true) {action : String}
    (haction : action.toList =
      before ++ callText "add_bgm" (.quoted quote words.toList :: more) ++ after) :
    action? action = some (.music words ((numberAt?
      (words.toList :: more.map fun a => Text.trim a.content) 1).getD defaultMusicVolume)) := by
  have hcontent : Text.trim (Argument.quoted quote words.toList).content = words.toList :=
    Text.trim_of_isTrimmed htrimmed
  have hwhole : ∀ a ∈ Argument.quoted quote words.toList :: more, a.IsWhole :=
    List.forall_mem_cons.mpr ⟨⟨hquote, hwords⟩, hmore⟩
  have hfirst : Text.trim (Argument.quoted quote words.toList).content ≠ [] := by
    rw [hcontent]
    exact mt String.toList_eq_nil_iff.mp hne
  have hcall := call?_surrounded isName_addMusic hbefore hafter hwhole hfirst haction
  rw [List.map_cons, hcontent] at hcall
  have hwordsAt (args : List (List Char)) : textAt? (words.toList :: args) 0 = some words :=
    textAt?_of_words hne rfl
  rw [action?, hcall]
  simp only [Option.bind_eq_bind, Option.bind_some, hwordsAt]

/-- The words of a quoted argument come out of a call as they are: of a caption with its window and
its place, and of music with its volume, given or not. -/
theorem action?_of_quoted (hquote : Argument.IsQuote quote) {words place : String}
    (hne : words ≠ "") (hwords : quote ∉ words.toList) (htrimmed : Text.IsTrimmed words.toList)
    {start stop level : List Char} (hstart : IsNumeral start x) (hstop : IsNumeral stop y)
    (hlevel : IsNumeral level z) {position : TextPosition}
    (hplace : TextPosition.parse? place = some position) (hbefore : IsLead before)
    (hafter : ∀ c ∈ after, Text.isBlank c = true) :
    action? (String.ofList (before ++ callText "add_text" [.bare start, .bare stop,
        .quoted quote words.toList, .quoted quote place.toList] ++ after)) =
      some (.text ⟨x, y⟩ words position) ∧
    action? (String.ofList (before ++ callText "add_bgm" [.quoted quote words.toList,
        .bare level] ++ after)) = some (.music words z) ∧
    action? (String.ofList (before ++ callText "add_bgm" [.quoted quote words.toList] ++ after)) =
      some (.music words defaultMusicVolume) := by
  refine ⟨?caption, ?music, ?silent⟩
  case caption =>
    exact action?_addText hquote hne hwords htrimmed hstart hstop hplace hbefore hafter
      String.toList_ofList
  case music =>
    have hmore : ∀ a ∈ [Argument.bare level], a.IsWhole := by
      rintro a ha
      obtain rfl := List.mem_singleton.mp ha
      exact hlevel.isWhole
    have hcontent : Text.trim (Argument.bare level).content = level := hlevel.trim
    rw [action?_addMusic hquote hne hwords htrimmed hmore hbefore hafter String.toList_ofList,
      List.map_singleton, hcontent, numberAt?_of_isNumeral rfl hlevel, Option.getD_some]
  case silent =>
    have hmore : ∀ a ∈ ([] : List Argument), a.IsWhole := by
      rintro a ha
      cases ha
    exact action?_addMusic hquote hne hwords htrimmed hmore hbefore hafter String.toList_ofList

/-- A caption with a comma, parentheses, an apostrophe, a colon and a line break, in calls that are
announced and followed by a line break. -/
theorem action?_of_quoted_aside :
    action? "\n Action: add_text(0.5, 1.5, \x22Wait: (it's,\nwell) now\x22, \x22 Centre\x22)\n" =
        some (.text ⟨0.5, 1.5⟩ "Wait: (it's,\nwell) now" .center) ∧
      action? "\n Action: add_bgm(\x22Wait: (it's,\nwell) now\x22, 1e-1)\n" =
        some (.music "Wait: (it's,\nwell) now" 0.1) ∧
      action? "\n Action: add_bgm(\x22Wait: (it's,\nwell) now\x22)\n" =
        some (.music "Wait: (it's,\nwell) now" defaultMusicVolume) := by
  have htrimmed : Text.IsTrimmed "Wait: (it's,\nwell) now".toList := by
    constructor
    · rintro c hc
      obtain rfl := Option.some.inj hc
      decide
    · rintro c hc
      obtain rfl := Option.some.inj hc
      decide
  have hstart : IsNumeral "0.5".toList 0.5 := ⟨by decide +kernel, by decide +kernel⟩
  have hstop : IsNumeral "1.5".toList 1.5 := ⟨by decide +kernel, by decide +kernel⟩
  have hlevel : IsNumeral "1e-1".toList 0.1 := ⟨by decide +kernel, by decide +kernel⟩
  have hplace : TextPosition.parse? " Centre" = some .center := by decide +kernel
  have hlead : IsLead "\n Action: ".toList :=
    .inr ⟨"\n ".toList, " ".toList, rfl, List.all_eq_true.mp rfl, List.all_eq_true.mp rfl⟩
  have hafter : ∀ c ∈ "\n".toList, Text.isBlank c = true := List.all_eq_true.mp rfl
  have hread := action?_of_quoted (.inl rfl) (by decide) (by decide) htrimmed hstart hstop hlevel
    hplace hlead hafter
  have hcaption : String.ofList ("\n Action: ".toList ++ callText "add_text" [.bare "0.5".toList,
      .bare "1.5".toList, .quoted '\x22' "Wait: (it's,\nwell) now".toList,
      .quoted '\x22' " Centre".toList] ++ "\n".toList) =
      "\n Action: add_text(0.5, 1.5, \x22Wait: (it's,\nwell) now\x22, \x22 Centre\x22)\n" := by
    decide
  have hmusic : String.ofList ("\n Action: ".toList ++ callText "add_bgm"
      [.quoted '\x22' "Wait: (it's,\nwell) now".toList, .bare "1e-1".toList] ++ "\n".toList) =
      "\n Action: add_bgm(\x22Wait: (it's,\nwell) now\x22, 1e-1)\n" := by decide
  have hsilent : String.ofList ("\n Action: ".toList ++ callText "add_bgm"
      [.quoted '\x22' "Wait: (it's,\nwell) now".toList] ++ "\n".toList) =
      "\n Action: add_bgm(\x22Wait: (it's,\nwell) now\x22)\n" := by decide
  rw [hcaption, hmusic, hsilent] at hread
  exact hread

end Agent

end Montage
