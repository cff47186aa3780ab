import Montage.Proofs.Number.Printed

/-! Sizes as the arguments of filters write them: products of numbers and of the sides of a picture,
with parts that are cut down to whole numbers. -/
namespace Montage.Measure

/-- What a size is written with. -/
inductive Token
  | number (value : Rat)
  | name (letters : List Char)
  | mark (c : Char)
  deriving DecidableEq

def isNumeral (c : Char) : Bool :=
  c.isDigit || c = '.'

def tokens (cs : List Char) : List Token :=
  match cs with
  | [] => []
  | c :: rest =>
    if isNumeral c then
      .number (Decimal.quantity (c :: rest.takeWhile isNumeral)) ::
        tokens (rest.dropWhile isNumeral)
    else if c.isAlpha then
      .name (c :: rest.takeWhile Char.isAlpha) :: tokens (rest.dropWhile Char.isAlpha)
    else .mark c :: tokens rest
termination_by cs.length
decreasing_by
  · exact Nat.lt_succ_of_le (List.dropWhile_sublist _).length_le
  · exact Nat.lt_succ_of_le (List.dropWhile_sublist _).length_le
  · exact Nat.lt_succ_self _

/-- The whole part, toward zero. -/
def trunc (x : Rat) : Rat :=
  if x < 0 then -⌊-x⌋ else ⌊x⌋

mutual

/-- The value of a product of which a part is due. The part is handed to `apply`; `outer` are the
products that open brackets belong to. -/
def operand (sides : List Char → Option Rat) (apply : Rat → Rat) (outer : List (Rat → Rat)) :
    List Token → Option Rat
  | [] => none
  | .number q :: rest => operator sides (apply q) outer rest
  | .mark c :: rest => if c = '(' then operand sides id (apply :: outer) rest else none
  | .name letters :: rest =>
    if letters = ['t', 'r', 'u', 'n', 'c'] then operand sides (apply ∘ trunc) outer rest
    else match sides letters with
      | some side => operator sides (apply side) outer rest
      | none => none

/-- The value of a product that may end here or go on. -/
def operator (sides : List Char → Option Rat) (value : Rat) (outer : List (Rat → Rat)) :
    List Token → Option Rat
  | [] => if outer.isEmpty then some value else none
  | .mark c :: rest =>
    if c = '*' then operand sides (value * ·) outer rest
    else if c = '/' then operand sides (value / ·) outer rest
    else if c = ')' then
      match outer with
      | apply :: outer => operator sides (apply value) outer rest
      | [] => none
    else none
  | _ => none

end

/-- The value of a size, given what the sides are called. -/
def evaluate? (sides : List Char → Option Rat) (cs : List Char) : Option Rat :=
  operand sides id [] (tokens cs)

/-! ### Tokens -/

variable {sides : List Char → Option Rat} {cs rest : List Char} {c : Char}

theorem tokens_numeral (hne : cs ≠ []) (hcs : ∀ c ∈ cs, isNumeral c = true)
    (hrest : ∀ c ∈ rest.head?, isNumeral c = false) :
    tokens (cs ++ rest) = .number (Decimal.quantity cs) :: tokens rest := by
  have hstop : rest.takeWhile isNumeral = [] ∧ rest.dropWhile isNumeral = rest := by
    cases rest with
    | nil => exact ⟨rfl, rfl⟩
    | cons c rest => simp [hrest c rfl]
  cases cs with
  | nil => exact absurd rfl hne
  | cons first more =>
    have hmore : ∀ c ∈ more, isNumeral c = true := fun c hc => hcs c (List.mem_cons_of_mem _ hc)
    rw [List.cons_append, tokens, if_pos (hcs first List.mem_cons_self),
      List.takeWhile_append_of_pos hmore, List.dropWhile_append_of_pos hmore, hstop.1, hstop.2,
      List.append_nil]

theorem isNumeral_of_mem_digits {n : Nat} (h : c ∈ Decimal.digits n) : isNumeral c = true := by
  simp [isNumeral, Decimal.isDigit_of_mem_digits h]

theorem isNumeral_of_mem_pointed {places units : Nat} (h : c ∈ Decimal.pointed places units) :
    isNumeral c = true := by
  rcases Decimal.isDigit_or_eq_point_of_mem_pointed h with h | rfl
  · simp [isNumeral, h]
  · decide

theorem tokens_digits (n : Nat) (hrest : ∀ c ∈ rest.head?, isNumeral c = false) :
    tokens (Decimal.digits n ++ rest) = .number n :: tokens rest := by
  have hvalue : Decimal.quantity (Decimal.digits n) = n := by
    rw [Decimal.quantity_of_digits fun _ hc => Decimal.isDigit_of_mem_digits hc,
      Decimal.value_digits]
  rw [tokens_numeral (Decimal.digits_ne_nil n) (fun _ hc => isNumeral_of_mem_digits hc) hrest, hvalue]

theorem tokens_pointed (places units : Nat) (hrest : ∀ c ∈ rest.head?, isNumeral c = false) :
    tokens (Decimal.pointed places units ++ rest) =
      .number (units / 10 ^ places) :: tokens rest := by
  rw [tokens_numeral (Decimal.pointed_ne_nil _ _) (fun _ hc => isNumeral_of_mem_pointed hc) hrest,
    Decimal.quantity_pointed]

/-! ### The sizes that occur -/

theorem evaluate?_digits (n : Nat) : evaluate? sides (Decimal.digits n) = some (n : Rat) := by
  have htokens : tokens (Decimal.digits n ++ []) = _ := tokens_digits n (by simp)
  rw [List.append_nil] at htokens
  rw [evaluate?, htokens, tokens]
  simp [operand, operator]

variable {side : Rat}

/-- A share of a side. -/
theorem evaluate?_share (first : Char) (places units : Nat) (hfirst : first = 'w' ∨ first = 'h')
    (hside : sides ['i', first] = some side) :
    evaluate? sides (['i', first, '*'] ++ Decimal.pointed places units) =
      some (side * (units / 10 ^ places)) := by
  have htokens : tokens (Decimal.pointed places units ++ []) = _ :=
    tokens_pointed places units (by simp)
  rw [List.append_nil] at htokens
  have hall : tokens (['i', first, '*'] ++ Decimal.pointed places units) =
      [.name ['i', first], .mark '*', .number (units / 10 ^ places)] := by
    rcases hfirst with rfl | rfl <;> simp [tokens, isNumeral, htokens]
  rw [evaluate?, hall]
  simp [operand, operator, hside]

/-- A multiple of a side, cut down to an even number. -/
theorem evaluate?_even (first : Char) (places units : Nat) (hfirst : first = 'w' ∨ first = 'h')
    (hside : sides ['i', first] = some side) :
    evaluate? sides (['t', 'r', 'u', 'n', 'c', '(', 'i', first, '*'] ++
        Decimal.pointed places units ++ ['/', '2', ')', '*', '2']) =
      some (trunc (side * (units / 10 ^ places) / 2) * 2) := by
  have htokens : tokens (Decimal.pointed places units ++ ['/', '2', ')', '*', '2']) = _ :=
    tokens_pointed places units (by simp [isNumeral])
  have htwo : Decimal.quantity ['2'] = 2 := by decide +kernel
  have hall : tokens (['t', 'r', 'u', 'n', 'c', '(', 'i', first, '*'] ++
      Decimal.pointed places units ++ ['/', '2', ')', '*', '2']) =
        [.name ['t', 'r', 'u', 'n', 'c'], .mark '(', .name ['i', first], .mark '*',
          .number (units / 10 ^ places), .mark '/', .number 2, .mark ')', .mark '*',
            .number 2] := by
    rcases hfirst with rfl | rfl <;> simp [tokens, isNumeral, htokens, htwo]
  rw [evaluate?, hall]
  simp [operand, operator, hside]

end Montage.Measure
