import Montage.Number.Elementary
import Montage.Record.Program
import Montage.Shell.Format

/-!
Values: numbers, texts, and texts that have been read, which count as numbers if they look like one.
-/

namespace Montage.Record

inductive Value
  | unset
  | number (x : Binary64)
  | text (cs : List Char)
  /-- A text that has been read. -/
  | entry (cs : List Char)

instance : Inhabited Value :=
  ⟨.unset⟩

/-- The number that a text begins with, or zero. -/
def leadingNumber (cs : List Char) : Binary64 :=
  match Numeral.leadingReal? cs with
  | some found => found.value
  | none => .ofNat 0

/-- What numbers in decimal are made of. -/
def isNumberPart (c : Char) : Bool :=
  c.isDigit || "+-.eE".toList.contains c

/-- The number that a whole text is, with blanks around it. -/
def wholeNumber? (cs : List Char) : Option Binary64 :=
  if cs.all fun c => isNumberPart c || Numeral.isSpace c then
    match Numeral.leadingReal? cs with
    | some found => if found.rest.all Numeral.isSpace then some found.value else none
    | none => none
  else none

/-- The whole numbers from here on are written like others. -/
def digitLimit : Nat :=
  pow2 31

/-- A number in digits, if it is whole and not too large. -/
def wholeDigits? (x : Binary64) : Option (List Char) :=
  match x with
  | .finite negative units _ =>
    let n := units / Binary64.one
    if units % Binary64.one = 0 && n < digitLimit then
      some (Decimal.sign (negative && n ≠ 0) ++ Decimal.digits n)
    else none
  | _ => none

/-- The whole numbers from here on are not written by a conversion for whole numbers. -/
def conversionLimit : Nat :=
  pow2 64

/-- The whole part of a number, for a conversion that writes digits. -/
def wholePart (x : Binary64) : Int :=
  match x with
  | .finite negative units _ =>
    let n : Nat := units / Binary64.one
    if negative then -(min n (conversionLimit / 2 - 1) : Nat) else (min n (conversionLimit - 1) : Nat)
  | .infinite negative => if negative then -(conversionLimit / 2 - 1 : Nat) else (conversionLimit - 1 : Nat)
  | .nan _ => -(conversionLimit / 2 : Nat)

/-- A number as a conversion writes it that is for numbers. -/
def numberBy (c : Shell.Conversion) (x : Binary64) : List Char :=
  if Shell.isRealLetter c.letter then Shell.realChars c x
  else Shell.wholeChars c (wholePart x)

/-- A number that is not whole, by a format with one conversion. -/
def realBy (form : List Char) (x : Binary64) : List Char :=
  let lead := form.takeWhile (· ≠ '%')
  match Shell.conversion? ⟨[], false, false, false, []⟩ (form.drop (lead.length + 1)) with
  | some (c, _, rest) => lead ++ numberBy c x ++ rest
  | none => form

def textOf (form : List Char) (x : Binary64) : List Char :=
  (wholeDigits? x).getD (realBy form x)

namespace Value

def ofNat (n : Nat) : Value :=
  .number (.ofNat n)

def ofInt (n : Int) : Value :=
  .number (.ofInt n)

def ofBool (b : Bool) : Value :=
  .ofNat (if b then 1 else 0)

def real : Value → Binary64
  | unset => .ofNat 0
  | number x => x
  | text cs | entry cs => leadingNumber cs

/-- A value as a text; numbers that are not whole are written by a format. -/
def chars (form : List Char) : Value → List Char
  | unset => []
  | number x => textOf form x
  | text cs | entry cs => cs

/-- The number that a value is rather than a text, if it is one. -/
def number? : Value → Option Binary64
  | unset => some (.ofNat 0)
  | number x => some x
  | text _ => none
  | entry cs => wholeNumber? cs

def isTrue : Value → Bool
  | unset => false
  | text cs => !cs.isEmpty
  | number x => !x.isZero
  | entry cs =>
    match wholeNumber? cs with
    | some x => !x.isZero
    | none => !cs.isEmpty

end Value

/-- Whether a comparison holds of two numbers. -/
def Comparison.ofReals (op : Comparison) (x y : Binary64) : Bool :=
  match op with
  | .less => x.lt y
  | .lessOrEqual => x.le y
  | .equal => x.le y && y.le x
  | .different => !(x.le y && y.le x)
  | .greater => y.lt x
  | .greaterOrEqual => y.le x

def Comparison.ofOrder (op : Comparison) (o : Ordering) : Bool :=
  match op with
  | .less => o.isLT
  | .lessOrEqual => o.isLE
  | .equal => o.isEq
  | .different => o.isNe
  | .greater => o.isGT
  | .greaterOrEqual => o.isGE

/-- A comparison of two values: as numbers if both are such, or else as texts. -/
def Comparison.holds (op : Comparison) (form : List Char) (a b : Value) : Bool :=
  match a.number?, b.number? with
  | some x, some y => op.ofReals x y
  | _, _ => op.ofOrder (compare (String.ofList (a.chars form)) (String.ofList (b.chars form)))

def Arithmetic.apply (op : Arithmetic) (x y : Binary64) : Binary64 :=
  match op with
  | .add => x.add y
  | .subtract => x.sub y
  | .multiply => x.mul y
  | .divide => x.div y
  | .remainder => x.remainder y
  | .power => x.power y

end Montage.Record

/-!
Values written by a format.
-/

namespace Montage.Record

inductive FormatFault
  | tooFew
  /-- A conversion that does not exist, by its number. -/
  | improper (number : Nat)

def FormatFault.message (fault : FormatFault) (function : String) (form : List Char) : String :=
  let call := function ++ "(\x22" ++ String.ofList form ++ "\x22)"
  match fault with
  | .tooFew => "not enough arguments passed to " ++ call
  | .improper n => "improper conversion(number " ++ Decimal.natural n ++ ") in " ++ call

/-- What is left of a format, and of the values. -/
structure Formatting where
  form : List Char
  values : List Value
  /-- How many conversions have been seen. -/
  count : Nat

namespace Formatting

/-- A width or a precision: digits, or a star for the next value. -/
def size? (f : Formatting) : Option (Int × Formatting) :=
  match f.form, f.values with
  | '*' :: rest, v :: values => some (wholePart v.real, { f with form := rest, values := values })
  | '*' :: _, [] => none
  | form, _ =>
    let digits := form.takeWhile Char.isDigit
    some (Numeral.value digits, { f with form := form.drop digits.length })

/-- The conversion after a percent sign. -/
def conversion? (f : Formatting) : Option (Shell.Conversion × Formatting) := do
  let flags := f.form.takeWhile Shell.isFormatFlag
  let (width, f) ← { f with form := f.form.drop flags.length }.size?
  let (precision, f) ← match f.form with
    | '.' :: rest => do
      let (n, f) ← { f with form := rest }.size?
      some (if n < 0 then none else some n.toNat, f)
    | _ => some (none, f)
  let flags := if width < 0 then '-' :: flags else flags
  let rest := f.form.dropWhile fun c => c = 'h' || c = 'l'
  let letter := match rest with
    | 'i' :: _ => 'd'
    | c :: _ => c
    | [] => '%'
  some (⟨flags, width.natAbs, precision, letter⟩, { f with form := rest.drop 1 })

end Formatting

/-- The character that a value stands for: the one with a number, or the first of a text. -/
def charOf (v : Value) : Char :=
  match v, v.number? with
  | .unset, _ | _, none => (v.chars []).headD (Char.ofNat 0)
  | _, some x => Char.ofNat ((wholePart x) % 256).toNat

/-- A value as a conversion writes it, if there is such a conversion. -/
def valueBy? (form : List Char) (c : Shell.Conversion) (v : Value) : Option (List Char) :=
  match c.letter with
  | 's' =>
    let cs := v.chars form
    some (Shell.pad c false [] (cs.take (c.precision.getD cs.length)))
  | 'c' => some (Shell.pad c false [] [charOf v])
  | letter =>
    if "duoxX".toList.contains letter || Shell.isRealLetter letter then some (numberBy c v.real)
    else none

/-- The text that a format makes of values, up to what is wrong with it. Numbers that are written as
texts have a format of their own. -/
def formatted (numbers : List Char) : Nat → Formatting → List Char × Option FormatFault
  | 0, _ => ([], none)
  | fuel + 1, f =>
    let more (written : List Char) (f : Formatting) :=
      let (later, fault) := formatted numbers fuel f
      (written ++ later, fault)
    match f.form with
    | [] => ([], none)
    | '%' :: '%' :: rest => more ['%'] { f with form := rest }
    | '%' :: rest =>
      let count := f.count + 1
      match { f with form := rest, count := count }.conversion? with
      | none => ([], some .tooFew)
      | some (c, after) =>
        match after.values with
        | [] => ([], some .tooFew)
        | v :: values =>
          match valueBy? numbers c v with
          | some text => more text { after with values := values }
          | none => ([], some (.improper count))
    | c :: rest => more [c] { f with form := rest }

def format (numbers form : List Char) (values : List Value) : List Char × Option FormatFault :=
  formatted numbers (form.length + 1) ⟨form, values, 0⟩

end Montage.Record
