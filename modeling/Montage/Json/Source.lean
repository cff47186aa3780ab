import Montage.Number.Numeral

/-!
JSON texts as they are written. The grammar alone decides here: numbers of any size, values nested
to any depth, and escapes that name half of a surrogate pair are well written.
-/

namespace Montage.Json

/-- A number by its parts. A number without a fraction and a power of ten is meant to be whole. -/
structure WrittenNumber where
  negative : Bool
  whole : List Char
  fraction : List Char
  power : Option Int

inductive Source
  | null
  | bool (b : Bool)
  | number (n : WrittenNumber)
  /-- No text when an escape in it names half of a surrogate pair. -/
  | string (text : Option String)
  | array (items : List Source)
  | object (fields : List (Option String × Source))

namespace Source

def isSpace (c : Char) : Bool :=
  c = ' ' || c = '\n' || c = '\t' || c = '\r'

def skipSpace (cs : List Char) : List Char :=
  cs.dropWhile isSpace

def hexValue? (c : Char) : Option Nat :=
  if c.isDigit then some (c.toNat - 48)
  else if 'a' ≤ c ∧ c ≤ 'f' then some (c.toNat - 87)
  else if 'A' ≤ c ∧ c ≤ 'F' then some (c.toNat - 55)
  else none

/-- Four hexadecimal digits and the rest. -/
def hexUnit? : List Char → Option (Nat × List Char)
  | a :: b :: c :: d :: rest => do
    let a ← hexValue? a
    let b ← hexValue? b
    let c ← hexValue? c
    let d ← hexValue? d
    some (((a * 16 + b) * 16 + c) * 16 + d, rest)
  | _ => none

def simpleEscape? : Char → Option Char
  | '\x22' => some '\x22'
  | '\\' => some '\\'
  | '/' => some '/'
  | 'b' => some '\x08'
  | 'f' => some '\x0c'
  | 'n' => some '\n'
  | 'r' => some '\r'
  | 't' => some '\t'
  | _ => none

/-- What a string is made of: characters, and units that escapes name by number. -/
inductive CodeUnit
  | char (c : Char)
  | number (n : Nat)

/-- The units up to the closing quote, in reverse and before those given, and the rest after it. -/
def units? (fuel : Nat) (before : List CodeUnit) (cs : List Char) :
    Option (List CodeUnit × List Char) :=
  match fuel, cs with
  | fuel + 1, '\\' :: 'u' :: rest =>
    match hexUnit? rest with
    | some (n, rest) => units? fuel (.number n :: before) rest
    | none => none
  | fuel + 1, '\\' :: e :: rest =>
    match simpleEscape? e with
    | some c => units? fuel (.char c :: before) rest
    | none => none
  | fuel + 1, c :: rest =>
    if c = '\x22' then some (before, rest)
    else if c.toNat < 32 ∨ c = '\\' then none
    else units? fuel (.char c :: before) rest
  | _, _ => none

/-- The text before some characters that reversed units stand for. Two numbers of a surrogate pair
make one character, and a lone one makes none. -/
def textBefore? (after : List Char) : List CodeUnit → Option (List Char)
  | [] => some after
  | .char c :: rest => textBefore? (c :: after) rest
  | .number low :: .number high :: rest =>
    if 0xDC00 ≤ low ∧ low ≤ 0xDFFF then
      if 0xD800 ≤ high ∧ high ≤ 0xDBFF then
        textBefore? (Char.ofNat (0x10000 + (high - 0xD800) * 1024 + (low - 0xDC00)) :: after) rest
      else none
    else if 0xD800 ≤ low ∧ low ≤ 0xDBFF then none
    else textBefore? (Char.ofNat low :: after) (.number high :: rest)
  | .number n :: rest =>
    if 0xD800 ≤ n ∧ n ≤ 0xDFFF then none else textBefore? (Char.ofNat n :: after) rest

/-- The text up to the closing quote, if it stands for one, and the rest after it. -/
def text? (cs : List Char) : Option (Option String × List Char) :=
  (units? (cs.length + 1) [] cs).map fun (units, rest) =>
    ((textBefore? [] units).map String.ofList, rest)

/-- The digits after a point, and the rest. Nothing where the point stands without digits. -/
def fraction? : List Char → Option (List Char × List Char)
  | '.' :: rest =>
    let digits := rest.takeWhile Char.isDigit
    if digits.isEmpty then none else some (digits, rest.dropWhile Char.isDigit)
  | cs => some ([], cs)

/-- The power of ten, and the rest. Nothing where its mark stands without digits. -/
def power? : List Char → Option (Option Int × List Char)
  | [] => some (none, [])
  | c :: rest =>
    if c = 'e' ∨ c = 'E' then
      let (negative, rest) := Numeral.signed rest
      let digits := rest.takeWhile Char.isDigit
      if digits.isEmpty then none
      else
        let power : Int := Numeral.value digits
        some (some (if negative then -power else power), rest.dropWhile Char.isDigit)
    else some (none, c :: rest)

/-- A number and the rest. Its whole part begins with a zero only if it is one. -/
def number? (cs : List Char) : Option (Source × List Char) := do
  let (negative, body) := match cs with
    | '-' :: rest => (true, rest)
    | cs => (false, cs)
  let whole := body.takeWhile Char.isDigit
  if whole.isEmpty ∨ (1 < whole.length ∧ whole.head? = some '0') then none
  else
    let (fraction, rest) ← fraction? (body.dropWhile Char.isDigit)
    let (power, rest) ← power? rest
    some (number ⟨negative, whole, fraction, power⟩, rest)

def literal? : List Char → Option (Source × List Char)
  | 'n' :: 'u' :: 'l' :: 'l' :: rest => some (null, rest)
  | 't' :: 'r' :: 'u' :: 'e' :: rest => some (bool true, rest)
  | 'f' :: 'a' :: 'l' :: 's' :: 'e' :: rest => some (bool false, rest)
  | _ => none

/-- An array or object that is still open: what stands in it so far, in reverse, and for an object
the name of the field that is being read. -/
inductive Frame
  | items (before : List Source)
  | fields (before : List (Option String × Source)) (name : Option String)

/-- What comes next: a value, the name of a field of an object, or whatever may follow a value. -/
inductive Next
  | value
  | name (before : List (Option String × Source))
  | after (v : Source)

/-- Reads on inside the open arrays and objects, innermost first, until all are closed. -/
def read? (fuel : Nat) (next : Next) (frames : List Frame) (cs : List Char) :
    Option (Source × List Char) :=
  match fuel with
  | 0 => none
  | fuel + 1 =>
    match next with
    | .value =>
      match skipSpace cs with
      | '\x22' :: rest =>
        match text? rest with
        | some (text, rest) => read? fuel (.after (string text)) frames rest
        | none => none
      | '[' :: rest =>
        match skipSpace rest with
        | ']' :: rest => read? fuel (.after (array [])) frames rest
        | rest => read? fuel .value (.items [] :: frames) rest
      | '\x7b' :: rest =>
        match skipSpace rest with
        | '\x7d' :: rest => read? fuel (.after (object [])) frames rest
        | rest => read? fuel (.name []) frames rest
      | cs =>
        match (literal? cs).or (number? cs) with
        | some (v, rest) => read? fuel (.after v) frames rest
        | none => none
    | .name before =>
      match skipSpace cs with
      | '\x22' :: rest =>
        match text? rest with
        | some (name, rest) =>
          match skipSpace rest with
          | ':' :: rest => read? fuel .value (.fields before name :: frames) rest
          | _ => none
        | none => none
      | _ => none
    | .after v =>
      match frames with
      | [] => some (v, cs)
      | .items before :: frames =>
        match skipSpace cs with
        | ',' :: rest => read? fuel .value (.items (v :: before) :: frames) rest
        | ']' :: rest => read? fuel (.after (array (v :: before).reverse)) frames rest
        | _ => none
      | .fields before name :: frames =>
        match skipSpace cs with
        | ',' :: rest => read? fuel (.name ((name, v) :: before)) frames rest
        | '\x7d' :: rest =>
          read? fuel (.after (object ((name, v) :: before).reverse)) frames rest
        | _ => none

/-- What a whole text says. Every step but the last takes a character. -/
def ofText? (cs : List Char) : Option Source :=
  match read? (cs.length + 2) .value [] cs with
  | some (source, rest) => if (skipSpace rest).isEmpty then some source else none
  | none => none

end Source

end Montage.Json
