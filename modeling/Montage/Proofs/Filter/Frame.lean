import Montage.Filter.Basic
import Montage.Proofs.Filter.Measure
import Montage.Proofs.Text.Words

/-! What filters of pictures make of the size of a frame, as far as it follows from their texts. -/
namespace Montage

/-- The size of a picture. -/
structure Frame where
  width : Nat
  height : Nat
  deriving DecidableEq

namespace Frame

/-- What the sides of the picture that comes in are called. -/
def side? (f : Frame) (letters : List Char) : Option Rat :=
  if letters = ['i', 'w'] then some f.width
  else if letters = ['i', 'h'] then some f.height
  else none

/-- The size that the first two arguments of a filter ask for. -/
def asked? (f : Frame) : List (List Char) → Option Frame
  | width :: height :: _ => do
    let width ← Measure.evaluate? f.side? width
    let height ← Measure.evaluate? f.side? height
    some ⟨⌊width⌋.toNat, ⌊height⌋.toNat⟩
  | _ => none

/-- The size behind the filter of a name; nothing when it refuses the frame. Scaling needs a size
that is positive, cropping one that lies in the frame, and padding one that the frame lies in. -/
def behind? (f : Frame) (name : String) (arguments : List (List Char)) : Option Frame :=
  if name = "scale" then
    (f.asked? arguments).filter fun g => decide (0 < g.width ∧ 0 < g.height)
  else if name = "crop" then
    (f.asked? arguments).filter fun g => decide (g.width ≤ f.width ∧ g.height ≤ f.height)
  else if name = "pad" then
    (f.asked? arguments).filter fun g => decide (f.width ≤ g.width ∧ f.height ≤ g.height)
  else if name = "rotate" then
    if "ow=iw".toList ∈ arguments ∧ "oh=ih".toList ∈ arguments then some f else none
  else if name = "hflip" ∨ name = "vflip" then some f
  else none

def after? (f : Frame) (filter : String) : Option Frame :=
  let name := filter.toList.takeWhile (· ≠ '=')
  f.behind? (String.ofList name) (Text.splitOn (· = ':') (filter.toList.drop (name.length + 1)))

def afterAll? (f : Frame) (filters : List String) : Option Frame :=
  filters.foldlM after? f

variable {f g : Frame} {filter name : String} {rest width height : List Char} {w h : Rat}

theorem side?_width (f : Frame) : f.side? ['i', 'w'] = some (f.width : Rat) :=
  if_pos rfl

theorem side?_height (f : Frame) : f.side? ['i', 'h'] = some (f.height : Rat) := by
  simp [side?]

theorem after?_eq (htext : filter.toList = name.toList ++ '=' :: rest) (hname : '=' ∉ name.toList) :
    f.after? filter = f.behind? name (Text.splitOn (· = ':') rest) := by
  have hbefore : ∀ c ∈ name.toList, decide (c ≠ '=') = true :=
    fun c hc => decide_eq_true fun heq => hname (heq ▸ hc)
  have htake : filter.toList.takeWhile (· ≠ '=') = name.toList := by
    rw [htext, List.takeWhile_append_of_pos hbefore]
    simp
  have hdrop : filter.toList.drop (name.toList.length + 1) = rest := by
    rw [htext, ← List.drop_drop, List.drop_left]
    rfl
  simp only [after?, htake, hdrop, String.ofList_toList]

theorem asked?_eq (hwidth : Measure.evaluate? f.side? width = some w)
    (hheight : Measure.evaluate? f.side? height = some h) (more : List (List Char)) :
    f.asked? (width :: height :: more) = some ⟨⌊w⌋.toNat, ⌊h⌋.toNat⟩ := by
  rw [asked?, hwidth, hheight]
  rfl

theorem afterAll?_nil : f.afterAll? [] = some f := rfl

theorem afterAll?_cons (filter : String) (more : List String) :
    f.afterAll? (filter :: more) = (f.after? filter).bind (·.afterAll? more) :=
  List.foldlM_cons

theorem afterAll?_append (first second : List String) :
    f.afterAll? (first ++ second) = (f.afterAll? first).bind (·.afterAll? second) :=
  List.foldlM_append

end Frame

/-! ### The size behind each filter -/

namespace Filter

variable {α : Type} [Scalar α] {f : Frame} {factor : α} {num den width height : Nat}

/-- A side scaled by ten-thousandths and cut down to an even number. -/
def evenSide (units side : Nat) : Nat :=
  side * units / 20000 * 2

theorem toNat_floor_even (units side : Nat) :
    ⌊Measure.trunc ((side : Rat) * (units / 10 ^ 4) / 2) * 2⌋.toNat = evenSide units side := by
  have hquotient : (side : Rat) * (units / 10 ^ 4) / 2 =
      ((side * units : Nat) : Rat) / (20000 : Nat) := by
    push_cast
    ring
  have hnonneg : ¬ ((side * units : Nat) : Rat) / (20000 : Nat) < 0 := not_lt.mpr (by positivity)
  have hwhole : ((⌊((side * units : Nat) : Rat) / (20000 : Nat)⌋ : Int) : Rat) * 2 =
      (evenSide units side : Nat) := by
    rw [Rat.floor_natCast_div_natCast, evenSide]
    norm_cast
  rw [hquotient, Measure.trunc, if_neg hnonneg, hwhole, Int.floor_natCast, Int.toNat_natCast]

theorem toNat_floor_natCast (n : Nat) : ⌊(n : Rat)⌋.toNat = n := by
  rw [Int.floor_natCast, Int.toNat_natCast]

theorem colon_notMem_pointed (places units : Nat) : ':' ∉ Decimal.pointed places units :=
  Decimal.notMem_pointed (by decide) (by decide) places units

theorem colon_notMem_digits (n : Nat) : ':' ∉ Decimal.digits n :=
  Decimal.notMem_digits (by decide) n

theorem splitOn_colon {first : List Char} (hfirst : ':' ∉ first) (rest : List Char) :
    Text.splitOn (· = ':') (first ++ ':' :: rest) = first :: Text.splitOn (· = ':') rest :=
  Text.splitOn_append_mark (fun c hc => decide_eq_false fun heq : c = ':' => hfirst (heq ▸ hc))
    (decide_eq_true rfl) rest

theorem splitOn_no_colon {piece : List Char} (hpiece : ':' ∉ piece) :
    Text.splitOn (· = ':') piece = [piece] :=
  Text.splitOn_of_no_mark fun c hc => decide_eq_false fun heq : c = ':' => hpiece (heq ▸ hc)

/-- The frame scaled by ten-thousandths, with both sides cut down to even numbers. -/
def evenFrame (units : Nat) (f : Frame) : Frame :=
  ⟨evenSide units f.width, evenSide units f.height⟩

theorem after?_scaleBy (f : Frame) {units : Nat} (h : Scalar.reading factor = .finite false num den)
    (hunits : (Scalar.reading factor).units 4 = units) :
    f.after? (print (.scaleBy factor)) =
      if 0 < evenSide units f.width ∧ 0 < evenSide units f.height then some (evenFrame units f)
      else none := by
  have hprint : print (.scaleBy factor) =
      "scale=trunc(iw*" ++ Scalar.fixed 4 factor ++ "/2)*2:trunc(ih*" ++ Scalar.fixed 4 factor ++
        "/2)*2" := rfl
  have htext : (print (.scaleBy factor)).toList = "scale".toList ++ '=' ::
      ((['t', 'r', 'u', 'n', 'c', '(', 'i', 'w', '*'] ++ Decimal.pointed 4 units ++
        ['/', '2', ')', '*', '2']) ++ ':' ::
      (['t', 'r', 'u', 'n', 'c', '(', 'i', 'h', '*'] ++ Decimal.pointed 4 units ++
        ['/', '2', ')', '*', '2'])) := by
    rw [hprint]
    simp [Scalar.toList_fixed 4 h, hunits]
  have hcolon := colon_notMem_pointed 4 units
  rw [Frame.after?_eq htext (by simp), splitOn_colon (by simp [hcolon]),
    splitOn_no_colon (by simp [hcolon]), Frame.behind?, if_pos rfl,
    Frame.asked?_eq (Measure.evaluate?_even 'w' 4 units (Or.inl rfl) f.side?_width)
      (Measure.evaluate?_even 'h' 4 units (Or.inr rfl) f.side?_height),
    toNat_floor_even, toNat_floor_even]
  simp [Option.filter, evenFrame]

theorem toList_printSize (width height : Nat) :
    (printSize width height).toList = Decimal.digits width ++ ':' :: Decimal.digits height := by
  simp [printSize, Decimal.natural]

theorem asked?_size (f : Frame) (width height : Nat) (more : List (List Char)) :
    f.asked? (Decimal.digits width :: Decimal.digits height :: more) = some ⟨width, height⟩ := by
  rw [Frame.asked?_eq (Measure.evaluate?_digits width) (Measure.evaluate?_digits height),
    toNat_floor_natCast, toNat_floor_natCast]

theorem after?_scaleTo (f : Frame) (hwidth : 0 < width) (hheight : 0 < height) :
    f.after? (print (.scaleTo width height : Filter α)) = some ⟨width, height⟩ := by
  have hprint : print (.scaleTo width height : Filter α) = "scale=" ++ printSize width height := rfl
  have htext : (print (.scaleTo width height : Filter α)).toList =
      "scale".toList ++ '=' :: (Decimal.digits width ++ ':' :: Decimal.digits height) := by
    rw [hprint]
    simp [toList_printSize]
  rw [Frame.after?_eq htext (by simp), splitOn_colon (colon_notMem_digits _),
    splitOn_no_colon (colon_notMem_digits _), Frame.behind?, if_pos rfl, asked?_size]
  simp [Option.filter, hwidth, hheight]

theorem after?_cropMiddle (f : Frame) (width height : Nat) (right down : α) :
    f.after? (print (.cropMiddle width height right down)) =
      if width ≤ f.width ∧ height ≤ f.height then some ⟨width, height⟩ else none := by
  have hprint : print (.cropMiddle width height right down) = "crop=" ++ printSize width height ++
      ":" ++ printMiddle "iw" width right ++ ":" ++ printMiddle "ih" height down := rfl
  obtain ⟨rest, htext⟩ : ∃ rest, (print (.cropMiddle width height right down)).toList =
      "crop".toList ++ '=' ::
        (Decimal.digits width ++ ':' :: (Decimal.digits height ++ ':' :: rest)) := by
    rw [hprint]
    exact ⟨_, by simp only [String.toList_append, toList_printSize, List.append_assoc]; rfl⟩
  rw [Frame.after?_eq htext (by simp), splitOn_colon (colon_notMem_digits _),
    splitOn_colon (colon_notMem_digits _), Frame.behind?, if_neg (by decide), if_pos rfl,
    asked?_size]
  simp [Option.filter]

theorem after?_padTo (f : Frame) (width height : Nat) :
    f.after? (print (.padTo width height : Filter α)) =
      if f.width ≤ width ∧ f.height ≤ height then some ⟨width, height⟩ else none := by
  have hprint : print (.padTo width height : Filter α) =
      "pad=" ++ printSize width height ++ ":(ow-iw)/2:(oh-ih)/2:color=black" := rfl
  obtain ⟨rest, htext⟩ : ∃ rest, (print (.padTo width height : Filter α)).toList =
      "pad".toList ++ '=' ::
        (Decimal.digits width ++ ':' :: (Decimal.digits height ++ ':' :: rest)) := by
    rw [hprint]
    exact ⟨"(ow-iw)/2:(oh-ih)/2:color=black".toList, by simp [toList_printSize]⟩
  rw [Frame.after?_eq htext (by simp), splitOn_colon (colon_notMem_digits _),
    splitOn_colon (colon_notMem_digits _), Frame.behind?, if_neg (by decide), if_neg (by decide),
    if_pos rfl, asked?_size]
  simp [Option.filter]

theorem toNat_floor_share_le {units : Nat} (hunits : units ≤ 10 ^ 4) (side : Nat) :
    ⌊(side : Rat) * (units / 10 ^ 4)⌋.toNat ≤ side := by
  have hshare : (units : Rat) / 10 ^ 4 ≤ 1 := by
    rw [div_le_one (by norm_num)]
    exact_mod_cast hunits
  have hle : (side : Rat) * (units / 10 ^ 4) ≤ side := mul_le_of_le_one_right (by positivity) hshare
  have hfloor := Int.floor_mono hle
  rw [Int.floor_natCast] at hfloor
  exact Int.toNat_le.mpr hfloor

/-- A window that prints as no more than the whole frame can be cut out. -/
theorem after?_cropShare {window : CropRect α} {w h : Nat} (f : Frame)
    (hwidth : Scalar.reading window.width = .finite false w den)
    (hheight : Scalar.reading window.height = .finite false h den)
    (hw : (Scalar.reading window.width).units 4 ≤ 10 ^ 4)
    (hh : (Scalar.reading window.height).units 4 ≤ 10 ^ 4) :
    ∃ g, f.after? (print (.cropShare window)) = some g := by
  have hprint : print (.cropShare window) =
      "crop=iw*" ++ Scalar.fixed 4 window.width ++ ":ih*" ++ Scalar.fixed 4 window.height ++
        ":iw*" ++ Scalar.fixed 4 window.x ++ ":ih*" ++ Scalar.fixed 4 window.y := rfl
  obtain ⟨rest, htext⟩ : ∃ rest, (print (.cropShare window)).toList = "crop".toList ++ '=' ::
      ((['i', 'w', '*'] ++ Decimal.pointed 4 ((Scalar.reading window.width).units 4)) ++ ':' ::
        ((['i', 'h', '*'] ++ Decimal.pointed 4 ((Scalar.reading window.height).units 4)) ++
          ':' :: rest)) := by
    rw [hprint]
    exact ⟨_, by simp [Scalar.toList_fixed 4 hwidth, Scalar.toList_fixed 4 hheight]; rfl⟩
  have hcolon (units : Nat) := colon_notMem_pointed 4 units
  rw [Frame.after?_eq htext (by simp), splitOn_colon (by simp [hcolon]),
    splitOn_colon (by simp [hcolon]), Frame.behind?, if_neg (by decide), if_pos rfl,
    Frame.asked?_eq (Measure.evaluate?_share 'w' 4 _ (Or.inl rfl) f.side?_width)
      (Measure.evaluate?_share 'h' 4 _ (Or.inr rfl) f.side?_height)]
  exact ⟨_, by
    rw [Option.filter_some, if_pos (decide_eq_true
      ⟨toNat_floor_share_le hw f.width, toNat_floor_share_le hh f.height⟩)]⟩

theorem after?_rotate (f : Frame) {degrees : α} (h : Scalar.isFinite degrees = true) :
    f.after? (print (.rotate degrees)) = some f := by
  have hprint : print (.rotate degrees) =
      "rotate=" ++ Scalar.fixed 4 degrees ++ "*PI/180:ow=iw:oh=ih:c=black" := rfl
  have hcolon : ':' ∉ (Scalar.fixed 4 degrees).toList := by
    unfold Scalar.isFinite at h
    rw [Scalar.fixed, Decimal.fixed, String.toList_ofList]
    cases hreading : Scalar.reading degrees with
    | nan => simp [hreading, Reading.isFinite] at h
    | infinite negative => simp [hreading, Reading.isFinite] at h
    | finite negative n d =>
      rw [Decimal.fixedChars, List.mem_append, not_or]
      refine ⟨?_, colon_notMem_pointed _ _⟩
      cases negative <;> decide
  have htext : (print (.rotate degrees)).toList = "rotate".toList ++ '=' ::
      (((Scalar.fixed 4 degrees).toList ++ "*PI/180".toList) ++ ':' ::
        ("ow=iw".toList ++ ':' :: ("oh=ih".toList ++ ':' :: "c=black".toList))) := by
    rw [hprint]
    simp
  rw [Frame.after?_eq htext (by simp), splitOn_colon (by simp [hcolon]), splitOn_colon (by simp),
    splitOn_colon (by simp), splitOn_no_colon (by simp), Frame.behind?, if_neg (by decide),
    if_neg (by decide), if_neg (by decide), if_pos rfl, if_pos (by simp)]

theorem after?_flip (f : Frame) :
    f.after? (print (.flipAcross : Filter α)) = some f ∧
      f.after? (print (.flipOver : Filter α)) = some f := by
  have hacross : print (.flipAcross : Filter α) = "hflip" := rfl
  have hover : print (.flipOver : Filter α) = "vflip" := rfl
  rw [hacross, hover]
  simp [Frame.after?, Frame.behind?]

end Filter

end Montage
