import Montage.Caption.Image
import Montage.Proofs.Number.Decimal
import Montage.Proofs.Number.Exact

/-! A written caption filter reads back. One pass takes the graph's escapes away and finds one
filter, a second takes the options' escapes away and finds the settings that were written. -/
namespace Montage.Caption

/-! ### Reading -/

/-- How a reader takes the next character. -/
inductive Mode
  | bare
  /-- After a backslash. -/
  | escaped
  /-- Between single quotes. -/
  | quoted
  deriving DecidableEq

/-- The character in front of the first piece. -/
def consFirst (c : Char) : List (List Char) → List (List Char)
  | [] => [[c]]
  | piece :: pieces => (c :: piece) :: pieces

/-- The pieces between bare marks. A backslash and its character stand for the character, and a run
between single quotes for itself; nothing is read when one of them is not complete. -/
def pieces? (isMark : Char → Bool) : Mode → List Char → Option (List (List Char))
  | .bare, [] => some [[]]
  | _, [] => none
  | .escaped, c :: rest => (pieces? isMark .bare rest).map (consFirst c)
  | .quoted, c :: rest =>
    if c = '\x27' then pieces? isMark .bare rest
    else (pieces? isMark .quoted rest).map (consFirst c)
  | .bare, c :: rest =>
    if c = '\\' then pieces? isMark .escaped rest
    else if c = '\x27' then pieces? isMark .quoted rest
    else if isMark c then (pieces? isMark .bare rest).map ([] :: ·)
    else (pieces? isMark .bare rest).map (consFirst c)

example : pieces? (· = ':') .bare ['a', '\x27', ':', '\x27', ':', '\\', ':'] =
    some [['a', ':'], [':']] := by
  decide

/-- What ends a filter in a graph. -/
def isFilterEnd (c : Char) : Bool :=
  c = '[' || c = ']' || c = ',' || c = ';'

/-- What ends an option of a filter. -/
def isOptionEnd (c : Char) : Bool :=
  c = ':'

/-- A name and a value, apart at the first equals sign. -/
def setting? (cs : List Char) : Option (String × String) :=
  match cs.dropWhile (· ≠ '=') with
  | [] => none
  | _ :: value => some (String.ofList (cs.takeWhile (· ≠ '=')), String.ofList value)

/-- The name of a lone filter of a graph, and its options in their order. -/
def read? (text : String) : Option (String × List (String × String)) := do
  let (name, argument) ← setting? text.toList
  match ← pieces? isFilterEnd .bare argument.toList with
  | [options] =>
    let settings ← (← pieces? isOptionEnd .bare options).mapM setting?
    some (name, settings)
  | _ => none

/-! ### One pass over escaped text -/

section Pass

variable {special isMark : Char → Bool} {cs rest : List Char} {mark : Char}

/-- The characters in front of the first piece. -/
def appendFirst (cs : List Char) (pieces : List (List Char)) : List (List Char) :=
  cs.foldr consFirst pieces

theorem appendFirst_cons (cs piece : List Char) (pieces : List (List Char)) :
    appendFirst cs (piece :: pieces) = (cs ++ piece) :: pieces := by
  induction cs with
  | nil => rfl
  | cons c cs ih =>
    change consFirst c (appendFirst cs (piece :: pieces)) = _
    rw [ih]
    rfl

/-- Escaping covers what a pass does not take as it is. -/
structure Guards (special isMark : Char → Bool) : Prop where
  backslash : special '\\' = true
  quote : special '\x27' = true
  marks : ∀ c, isMark c = true → special c = true

/-- A pass takes escaped text as it was before it was escaped. -/
theorem pieces?_escape (h : Guards special isMark) (cs rest : List Char) :
    pieces? isMark .bare (escape special cs ++ rest) =
      (pieces? isMark .bare rest).map (appendFirst cs) := by
  induction cs with
  | nil =>
    change _ = (pieces? isMark .bare rest).map id
    rw [Option.map_id]
    rfl
  | cons c cs ih =>
    have hsplit : escape special (c :: cs) ++ rest =
        (if special c then ['\\', c] else [c]) ++ (escape special cs ++ rest) := by
      rw [escape, List.flatMap_cons, List.append_assoc]
      rfl
    have hnext : (pieces? isMark .bare (escape special cs ++ rest)).map (consFirst c) =
        (pieces? isMark .bare rest).map (appendFirst (c :: cs)) := by
      rw [ih, Option.map_map]
      rfl
    rw [hsplit, ← hnext]
    by_cases hspecial : special c = true
    · rw [if_pos hspecial]
      rfl
    · have hbackslash : c ≠ '\\' := by
        rintro rfl
        exact hspecial h.backslash
      have hquote : c ≠ '\x27' := by
        rintro rfl
        exact hspecial h.quote
      have hmark : ¬ isMark c = true := fun hmark => hspecial (h.marks c hmark)
      rw [if_neg hspecial, List.singleton_append, pieces?, if_neg hbackslash, if_neg hquote,
        if_neg hmark]

theorem pieces?_escape_end (h : Guards special isMark) (cs : List Char) :
    pieces? isMark .bare (escape special cs) = some [cs] := by
  have hend := pieces?_escape h cs []
  rw [List.append_nil] at hend
  rw [hend, pieces?, Option.map_some, appendFirst_cons, List.append_nil]

theorem pieces?_mark (hmark : isMark mark = true) (hbackslash : mark ≠ '\\')
    (hquote : mark ≠ '\x27') (rest : List Char) :
    pieces? isMark .bare (mark :: rest) = (pieces? isMark .bare rest).map ([] :: ·) := by
  rw [pieces?, if_neg hbackslash, if_neg hquote, if_pos hmark]

/-- Escaped texts that are apart by marks are the pieces. -/
theorem pieces?_intercalate (h : Guards special isMark) (hmark : isMark mark = true)
    (hbackslash : mark ≠ '\\') (hquote : mark ≠ '\x27') (first : List Char)
    (more : List (List Char)) :
    pieces? isMark .bare ([mark].intercalate ((first :: more).map (escape special))) =
      some (first :: more) := by
  induction more generalizing first with
  | nil =>
    rw [List.map_singleton, List.intercalate_singleton]
    exact pieces?_escape_end h first
  | cons second more ih =>
    have hrest := ih second
    rw [List.map_cons] at hrest
    rw [List.map_cons, List.map_cons, List.intercalate_cons_cons, List.append_assoc,
      pieces?_escape h, List.singleton_append, pieces?_mark hmark hbackslash hquote, hrest]
    rw [Option.map_some, Option.map_some, appendFirst_cons, List.append_nil]

end Pass

theorem guards_graph : Guards isGraphSpecial isFilterEnd where
  backslash := rfl
  quote := rfl
  marks c h := by
    simp only [isFilterEnd, isGraphSpecial, Bool.or_eq_true, decide_eq_true_eq] at h ⊢
    rcases h with ((h | h) | h) | h <;> simp [h]

theorem guards_option : Guards isOptionSpecial isOptionEnd where
  backslash := rfl
  quote := rfl
  marks c h := by
    simp only [isOptionEnd, isOptionSpecial, Bool.or_eq_true, decide_eq_true_eq] at h ⊢
    exact Or.inr h

/-! ### Written settings -/

/-- What the options of a caption are to say. -/
def settings (words : String) (position : TextPosition) (height : Nat) (font : Option String) :
    List (String × String) :=
  let layout := Layout.ofHeight position height
  [("text", words), ("expansion", "none")] ++ (font.map fun font => ("fontfile", font)).toList ++
    [("fontsize", Decimal.natural layout.fontSize),
      ("fontcolor", "white"),
      ("borderw", Decimal.natural layout.borderWidth),
      ("bordercolor", "black@0.9"),
      ("x", "(w-text_w)/2"),
      ("y", Decimal.natural layout.textTop)]

/-- A setting before any escape. -/
def written (setting : String × String) : List Char :=
  setting.1.toList ++ '=' :: setting.2.toList

theorem setting?_written (setting : String × String) (h : '=' ∉ setting.1.toList) :
    setting? (written setting) = some setting := by
  have hname : ∀ c ∈ setting.1.toList, decide (c ≠ '=') = true := by
    intro c hc
    rw [decide_eq_true_eq]
    rintro rfl
    exact h hc
  have hdrop : (written setting).dropWhile (· ≠ '=') = '=' :: setting.2.toList := by
    rw [written, List.dropWhile_append_of_pos hname]
    rfl
  have htake : (written setting).takeWhile (· ≠ '=') = setting.1.toList := by
    rw [written, List.takeWhile_append_of_pos hname]
    simp
  rw [setting?, hdrop, htake]
  simp only [String.ofList_toList]

theorem mapM_setting?_written (settings : List (String × String))
    (h : ∀ setting ∈ settings, '=' ∉ setting.1.toList) :
    (settings.map written).mapM setting? = some settings := by
  induction settings with
  | nil => rfl
  | cons setting settings ih =>
    rw [List.map_cons, List.mapM_cons, setting?_written setting (h setting List.mem_cons_self),
      ih fun other hother => h other (List.mem_cons_of_mem _ hother)]
    rfl

/-! ### Escapes of a written setting -/

section Escape

variable {special : Char → Bool}

theorem escape_append (cs ds : List Char) :
    escape special (cs ++ ds) = escape special cs ++ escape special ds :=
  List.flatMap_append

theorem escape_eq_self {cs : List Char} (h : ∀ c ∈ cs, special c = false) :
    escape special cs = cs := by
  induction cs with
  | nil => rfl
  | cons c cs ih =>
    have hc : special c = false := h c List.mem_cons_self
    have hcs : escape special cs = cs := ih fun d hd => h d (List.mem_cons_of_mem _ hd)
    calc escape special (c :: cs)
        = (if special c then ['\\', c] else [c]) ++ escape special cs := List.flatMap_cons
      _ = c :: cs := by
        rw [hcs, hc]
        rfl

theorem escape_intercalate {mark : Char} (h : special mark = false) (texts : List (List Char)) :
    escape special ([mark].intercalate texts) =
      [mark].intercalate (texts.map (escape special)) := by
  induction texts with
  | nil => rfl
  | cons first more ih =>
    cases more with
    | nil =>
      rw [List.map_singleton, List.intercalate_singleton, List.intercalate_singleton]
    | cons second more =>
      have hmark : escape special [mark] = [mark] := by
        refine escape_eq_self fun c hc => ?_
        rw [List.mem_singleton.mp hc]
        exact h
      rw [List.map_cons] at ih
      rw [List.map_cons, List.map_cons, List.intercalate_cons_cons, List.intercalate_cons_cons,
        escape_append, escape_append, hmark, ih]

end Escape

/-- The escapes of both readers. -/
def escapeBoth (cs : List Char) : List Char :=
  escape isGraphSpecial (escape isOptionSpecial cs)

theorem toList_escapeText (value : String) :
    (escapeText value).toList = escapeBoth value.toList := by
  simp only [escapeText, escapeGraph, escapeOption, String.toList_ofList, escapeBoth]

theorem escapeBoth_append (cs ds : List Char) :
    escapeBoth (cs ++ ds) = escapeBoth cs ++ escapeBoth ds := by
  rw [escapeBoth, escape_append, escape_append]
  rfl

/-- No reader takes the character for anything but itself. -/
def isPlain (c : Char) : Bool :=
  !isGraphSpecial c && !isOptionSpecial c

theorem escapeBoth_eq_self {cs : List Char} (h : cs.all isPlain = true) : escapeBoth cs = cs := by
  have hplain : ∀ c ∈ cs, isGraphSpecial c = false ∧ isOptionSpecial c = false := by
    simpa [isPlain] using h
  rw [escapeBoth, escape_eq_self fun c hc => (hplain c hc).2,
    escape_eq_self fun c hc => (hplain c hc).1]

theorem isPlain_of_isDigit {c : Char} (h : c.isDigit = true) : isPlain c = true := by
  have hne (d : Char) (hd : d.isDigit = false) : c ≠ d := by
    rintro rfl
    exact Bool.noConfusion (h.symm.trans hd)
  have hbackslash : c ≠ '\\' := hne _ rfl
  have hquote : c ≠ '\x27' := hne _ rfl
  have hcolon : c ≠ ':' := hne _ rfl
  have hopen : c ≠ '[' := hne _ rfl
  have hclose : c ≠ ']' := hne _ rfl
  have hcomma : c ≠ ',' := hne _ rfl
  have hsemicolon : c ≠ ';' := hne _ rfl
  simp [isPlain, isGraphSpecial, isOptionSpecial, *]

theorem all_isPlain_natural (n : Nat) : (Decimal.natural n).toList.all isPlain = true := by
  rw [Decimal.natural, String.toList_ofList, List.all_eq_true]
  exact fun c hc => isPlain_of_isDigit (Decimal.isDigit_of_mem_digits hc)

theorem toList_escaped_setting (name value : String) (h : name.toList.all isPlain = true) :
    (name ++ "=" ++ escapeText value).toList = escapeBoth (written (name, value)) := by
  have hstart : (name.toList ++ ['=']).all isPlain = true := by
    rw [List.all_append, h]
    rfl
  have hwritten : written (name, value) = (name.toList ++ ['=']) ++ value.toList := by
    simp [written]
  rw [hwritten, escapeBoth_append, escapeBoth_eq_self hstart, String.toList_append,
    String.toList_append, toList_escapeText]
  rfl

theorem toList_plain_setting (name value : String) (hname : name.toList.all isPlain = true)
    (hvalue : value.toList.all isPlain = true) :
    (name ++ "=" ++ value).toList = escapeBoth (written (name, value)) := by
  have hescaped : escapeText value = value := by
    rw [← String.toList_inj, toList_escapeText, escapeBoth_eq_self hvalue]
  have hsetting := toList_escaped_setting name value hname
  rwa [hescaped] at hsetting

theorem map_toList_options (words : String) (position : TextPosition) (height : Nat)
    (font : Option String) :
    (options words position height font).map String.toList =
      (settings words position height font).map fun setting => escapeBoth (written setting) := by
  have htext := toList_escaped_setting "text" words rfl
  have hsize := toList_plain_setting "fontsize" _ rfl
    (all_isPlain_natural (Layout.ofHeight position height).fontSize)
  have hborder := toList_plain_setting "borderw" _ rfl
    (all_isPlain_natural (Layout.ofHeight position height).borderWidth)
  have htop := toList_plain_setting "y" _ rfl
    (all_isPlain_natural (Layout.ofHeight position height).textTop)
  have hexpansion := toList_plain_setting "expansion" "none" rfl rfl
  have hcolor := toList_plain_setting "fontcolor" "white" rfl rfl
  have hborderColor := toList_plain_setting "bordercolor" "black@0.9" rfl rfl
  have hcentre := toList_plain_setting "x" "(w-text_w)/2" rfl rfl
  have hfont : (font.map fun font => "fontfile=" ++ escapeText font).toList.map String.toList =
      (font.map fun font => ("fontfile", font)).toList.map
        fun setting => escapeBoth (written setting) := by
    cases font with
    | none => rfl
    | some font => exact congrArg (fun cs => [cs]) (toList_escaped_setting "fontfile" font rfl)
  simp only [options, settings, List.map_append, List.map_cons, List.map_nil, hfont, ← htext,
    ← hsize, ← hborder, ← htop, ← hexpansion, ← hcolor, ← hborderColor, ← hcentre]
  rfl

/-- What the second reader is to find: the settings under its own escape, apart by colons. -/
def optionText (settings : List (String × String)) : List Char :=
  [':'].intercalate (settings.map fun setting => escape isOptionSpecial (written setting))

theorem toList_filter (words : String) (position : TextPosition) (height : Nat)
    (font : Option String) :
    (filter words position height font).toList =
      written ("drawtext", String.ofList
        (escape isGraphSpecial (optionText (settings words position height font)))) := by
  have hsettings := map_toList_options words position height font
  have hargument : escape isGraphSpecial (optionText (settings words position height font)) =
      ":".toList.intercalate ((options words position height font).map String.toList) := by
    rw [hsettings, optionText, escape_intercalate rfl, List.map_map]
    rfl
  have hstart : "drawtext=".toList = "drawtext".toList ++ ['='] := rfl
  rw [filter, String.toList_append, String.toList_intercalate, ← hargument, hstart, written]
  simp only [String.toList_ofList, List.append_assoc, List.singleton_append]

theorem pieces?_optionText (setting : String × String) (settings : List (String × String)) :
    pieces? isOptionEnd .bare (optionText (setting :: settings)) =
      some ((setting :: settings).map written) := by
  have hmark : isOptionEnd ':' = true := rfl
  have hpieces := pieces?_intercalate guards_option hmark (by decide) (by decide)
    (written setting) (settings.map written)
  rwa [← List.map_cons (f := written), List.map_map] at hpieces

theorem not_mem_equals_of_mem_settings {words : String} {position : TextPosition} {height : Nat}
    {font : Option String} {setting : String × String}
    (h : setting ∈ settings words position height font) : '=' ∉ setting.1.toList := by
  have hnames : (settings words position height font).map Prod.fst =
      ["text", "expansion"] ++ (font.map fun _ => "fontfile").toList ++
        ["fontsize", "fontcolor", "borderw", "bordercolor", "x", "y"] := by
    cases font <;> rfl
  have hplain : ∀ name ∈ (settings words position height font).map Prod.fst,
      '=' ∉ name.toList := by
    rw [hnames]
    cases font with
    | none => decide
    | some font =>
      rw [Option.map_some]
      decide
  exact hplain setting.1 (List.mem_map_of_mem h)

/-- A caption's filter is one filter, and its options are the settings as they were meant, whatever
characters the words and the font's path hold. -/
theorem read?_filter (words : String) (position : TextPosition) (height : Nat)
    (font : Option String) :
    read? (filter words position height font) =
      some ("drawtext", settings words position height font) := by
  have hname : '=' ∉ "drawtext".toList := by decide
  have hoptions : pieces? isOptionEnd .bare
      (optionText (settings words position height font)) =
      some ((settings words position height font).map written) :=
    pieces?_optionText _ _
  rw [read?, toList_filter, setting?_written _ hname]
  simp only [Option.bind_eq_bind, Option.bind_some, String.toList_ofList,
    pieces?_escape_end guards_graph, hoptions,
    mapM_setting?_written _ fun _ => not_mem_equals_of_mem_settings]

end Montage.Caption

/-! A caption lies inside its frame, however small or large the frame is, and no number on the way
to its place is too large for 32 bits. -/
namespace Montage

/-! ### Rounded shares -/

namespace Decimal

/-- Where a half goes up, rounding is dividing a number that is half a divisor larger. -/
theorem roundDiv_up_eq (n : Nat) {d : Nat} (hd : 0 < d) :
    roundDiv .up n d = (2 * n + d) / (2 * d) := by
  have hsplit : 2 * n + d = 2 * (n % d) + d + 2 * d * (n / d) := by
    have := Nat.div_add_mod n d
    nlinarith
  have hrest : n % d < d := Nat.mod_lt n hd
  rw [hsplit, Nat.add_mul_div_left _ _ (by omega)]
  unfold roundDiv
  dsimp only
  split
  · have hzero : (2 * (n % d) + d) / (2 * d) = 0 := Nat.div_eq_of_lt (by omega)
    rw [hzero, Nat.zero_add]
  · have hone : (2 * (n % d) + d) / (2 * d) = 1 := Nat.div_eq_of_lt_le (by omega) (by omega)
    rw [hone, Nat.add_comm]
    split <;> rfl

end Decimal

/-- The nearest whole number to a positive one, where a half goes up. -/
theorem Rational.nearest_eq_floor {x : Rat} (h : 0 ≤ x) :
    Scalar.nearest x = (⌊x + 1 / 2⌋₊ : Rat) := by
  have hnum : ¬ x.num < 0 := not_lt.mpr (Rat.num_nonneg.mpr h)
  have hden : (0 : Rat) < x.den := by exact_mod_cast x.den_pos
  have hx : x + 1 / 2 = ((2 * x.num.natAbs + x.den : Nat) : Rat) / ((2 * x.den : Nat) : Rat) := by
    have habs : ((x.num.natAbs : Nat) : Rat) = x.num := by
      rw [Nat.cast_natAbs, abs_of_nonneg (not_lt.mp hnum)]
    have hfraction : (x.num : Rat) = x * x.den := (Rat.mul_den_eq_num x).symm
    push_cast
    rw [habs, hfraction]
    field_simp
  have hnearest : Scalar.nearest x = (Decimal.roundDiv .up x.num.natAbs x.den : Rat) := by
    change Rational.nearest x = _
    simp only [Rational.nearest, hnum, if_false, Rat.ofInt_eq_cast, Int.cast_natCast]
  rw [hnearest, Decimal.roundDiv_up_eq _ x.den_pos, hx, Nat.floor_div_eq_div]

namespace Layout

theorem percent_eq (share length : Nat) : percent share length = (share * length + 50) / 100 := by
  rw [percent, Decimal.roundDiv_up_eq _ (by decide)]
  omega

/-- A share in pixels is the exact product rounded, a half going up. -/
theorem percent_eq_nearest (share length : Nat) :
    (percent share length : Rat) = Scalar.nearest ((length : Rat) * (share / 100)) := by
  have hsum : (length : Rat) * (share / 100) + 1 / 2 =
      ((share * length + 50 : Nat) : Rat) / ((100 : Nat) : Rat) := by
    push_cast
    ring
  rw [Rational.nearest_eq_floor (by positivity), hsum, Nat.floor_div_eq_div, percent_eq]

/-! ### The layout in numbers -/

section Numbers

variable (position : TextPosition) (height : Nat)

theorem fontSize_eq : (ofHeight position height).fontSize = max ((4 * height + 50) / 100) 1 := by
  rw [← percent_eq]
  rfl

theorem padding_eq : (ofHeight position height).padding =
    (25 * (ofHeight position height).fontSize + 50) / 100 :=
  percent_eq _ _

theorem boxHeight_eq : (ofHeight position height).boxHeight =
    (ofHeight position height).fontSize + 2 * (ofHeight position height).padding := rfl

theorem margin_eq : margin height = (8 * height + 50) / 100 :=
  percent_eq _ _

theorem boxTop_eq : (ofHeight position height).boxTop =
    boxTopOf position height (ofHeight position height).boxHeight := rfl

theorem textTop_eq : (ofHeight position height).textTop =
    (ofHeight position height).boxTop + (ofHeight position height).padding := rfl

end Numbers

variable (position : TextPosition) {height : Nat}

theorem fontSize_pos (height : Nat) : 1 ≤ (ofHeight position height).fontSize := by
  rw [fontSize_eq]
  exact Nat.le_max_right _ _

/-- The frame has room for the box between two margins. -/
theorem margins_add_boxHeight_le (h : 1 ≤ height) :
    2 * margin height + (ofHeight position height).boxHeight ≤ height := by
  have hfont := fontSize_eq position height
  have hpadding := padding_eq position height
  have hmargin := margin_eq height
  rw [boxHeight_eq]
  rcases Nat.eq_zero_or_pos (margin height) with hnone | hsome
  · omega
  · omega

theorem boxTop_add_boxHeight_le (h : 1 ≤ height) :
    (ofHeight position height).boxTop + (ofHeight position height).boxHeight ≤ height := by
  have hroom := margins_add_boxHeight_le position h
  rw [boxTop_eq]
  cases position <;> simp only [boxTopOf] <;> omega

theorem textTop_add_fontSize_le (h : 1 ≤ height) :
    (ofHeight position height).textTop + (ofHeight position height).fontSize ≤ height := by
  have hbox := boxTop_add_boxHeight_le position h
  have hheight := boxHeight_eq position height
  rw [textTop_eq]
  omega

theorem boxTop_top_le_center (h : 1 ≤ height) :
    (ofHeight .top height).boxTop ≤ (ofHeight .center height).boxTop := by
  have hroom := margins_add_boxHeight_le .center h
  rw [boxTop_eq, boxTop_eq]
  simp only [boxTopOf]
  omega

theorem boxTop_center_le_bottom (h : 1 ≤ height) :
    (ofHeight .center height).boxTop ≤ (ofHeight .bottom height).boxTop := by
  have hroom := margins_add_boxHeight_le .bottom h
  have hsame : (ofHeight .center height).boxHeight = (ofHeight .bottom height).boxHeight := rfl
  rw [boxTop_eq, boxTop_eq, hsame]
  simp only [boxTopOf]
  omega

/-! ### Numbers of 32 bits -/

/-- A number, if 32 bits can hold it. -/
def word? (n : Nat) : Option Nat :=
  if n < pow2 32 then some n else none

def boxTop? (position : TextPosition) (height boxHeight : Nat) : Option Nat :=
  match position with
  | .top => some (margin height)
  | .center => some ((height - boxHeight) / 2)
  | .bottom => (word? (boxHeight + margin height)).map (height - ·)

/-- The caption box of a frame and the top of its letters, if 32 bits hold every sum on the way. -/
def checked? (position : TextPosition) (height : Nat) : Option (Layout × Nat) := do
  let fontSize := Nat.max (percent 4 height) 1
  let padding := percent 25 fontSize
  let room ← word? (2 * padding)
  let boxHeight ← word? (fontSize + room)
  let boxTop ← boxTop? position height boxHeight
  let textTop ← word? (boxTop + padding)
  some (⟨fontSize, padding, boxHeight, boxTop, Nat.max (percent 8 fontSize) 2⟩, textTop)

theorem word?_of_lt {n : Nat} (h : n < pow2 32) : word? n = some n :=
  if_pos h

theorem boxTop?_of_lt {boxHeight : Nat} (h : boxHeight + margin height < pow2 32) :
    boxTop? position height boxHeight = some (boxTopOf position height boxHeight) := by
  cases position with
  | top => rfl
  | center => rfl
  | bottom => rw [boxTop?, word?_of_lt h]; rfl

theorem checked?_eq (hlow : 1 ≤ height) (hhigh : height < pow2 32) :
    checked? position height =
      some (ofHeight position height, (ofHeight position height).textTop) := by
  have hroom := margins_add_boxHeight_le position hlow
  have hbox := boxHeight_eq position height
  have htext := textTop_add_fontSize_le position hlow
  have hdouble : 2 * (ofHeight position height).padding < pow2 32 := by omega
  have hheight : (ofHeight position height).boxHeight < pow2 32 := by omega
  have hplace : (ofHeight position height).boxHeight + margin height < pow2 32 := by omega
  have htop : (ofHeight position height).textTop < pow2 32 := by omega
  change (word? (2 * (ofHeight position height).padding)).bind _ = _
  rw [word?_of_lt hdouble, Option.bind_some]
  change (word? (ofHeight position height).boxHeight).bind _ = _
  rw [word?_of_lt hheight, Option.bind_some, boxTop?_of_lt position hplace]
  change (word? (ofHeight position height).textTop).bind _ = _
  rw [word?_of_lt htop, Option.bind_some]
  rfl

/-- In a frame of any height, the letters have a size, the box and the letters end inside the frame,
and the box stands the lower the lower it is asked for. Sizes are exact products, rounded, and no
sum on the way is too large for 32 bits. -/
theorem fits_frame {height : Nat} (hlow : 1 ≤ height) (hhigh : height < pow2 32) :
    (∀ position,
      let l := ofHeight position height
      (l.fontSize : Rat) = max (Scalar.nearest ((height : Rat) * 0.04)) 1 ∧
      (l.padding : Rat) = Scalar.nearest ((l.fontSize : Rat) * 0.25) ∧
      1 ≤ l.fontSize ∧
      l.boxTop + l.boxHeight ≤ height ∧
      l.textTop + l.fontSize ≤ height ∧
      checked? position height = some (l, l.textTop)) ∧
    (margin height : Rat) = Scalar.nearest ((height : Rat) * 0.08) ∧
    (ofHeight .top height).boxTop ≤ (ofHeight .center height).boxTop ∧
    (ofHeight .center height).boxTop ≤ (ofHeight .bottom height).boxTop := by
  have hshare (share length : Nat) (x : Rat) (hx : (share : Rat) / 100 = x) :
      (percent share length : Rat) = Scalar.nearest ((length : Rat) * x) := by
    rw [percent_eq_nearest, hx]
  refine ⟨fun position => ⟨?_, ?_, fontSize_pos position height,
    boxTop_add_boxHeight_le position hlow, textTop_add_fontSize_le position hlow,
    checked?_eq position hlow hhigh⟩, ?_, boxTop_top_le_center hlow, boxTop_center_le_bottom hlow⟩
  · rw [← hshare 4 height 0.04 (by norm_num)]
    change ((max (percent 4 height) 1 : Nat) : Rat) = _
    rw [Nat.cast_max, Nat.cast_one]
  · exact hshare 25 _ 0.25 (by norm_num)
  · exact hshare 8 height 0.08 (by norm_num)

/-- The tallest frame. -/
theorem fits_frame_tallest :
    1 ≤ 4294967295 ∧ 4294967295 < pow2 32 ∧
      (ofHeight .bottom 4294967295).boxTop + (ofHeight .bottom 4294967295).boxHeight ≤ 4294967295 ∧
      checked? .bottom 4294967295 =
        some (ofHeight .bottom 4294967295, (ofHeight .bottom 4294967295).textTop) := by
  have hlow : 1 ≤ 4294967295 := by decide
  have hhigh : 4294967295 < pow2 32 := by decide
  obtain ⟨-, -, -, hbox, -, hchecked⟩ := (fits_frame hlow hhigh).1 .bottom
  exact ⟨hlow, hhigh, hbox, hchecked⟩

end Layout

end Montage
