import Montage.Text.Classes
import Montage.Utility.Input

/-!
Putting characters in the place of others, leaving them out, and leaving out repeated ones.
-/

namespace Montage.Utility

open Shell

/-- A part of a set of characters. -/
inductive SetItem
  | char (c : Char)
  | range (lo hi : Char)
  | named (name : String)
  /-- A character so many times, or as often as is needed. -/
  | again (c : Char) (count : Option Nat)

/-- A character, which may be written with a backslash. -/
def setChar : List Char → Option (Char × List Char)
  | [] => none
  | ['\\'] => some ('\\', [])
  | '\\' :: c :: rest =>
    let digits := ((c :: rest).takeWhile fun c => '0' ≤ c && c ≤ '7').take 3
    if digits.isEmpty then
      let meant := match c with
        | 'a' => '\x07'
        | 'b' => '\x08'
        | 'f' => '\x0c'
        | 'n' => '\n'
        | 'r' => '\r'
        | 't' => '\t'
        | 'v' => '\x0b'
        | c => c
      some (meant, rest)
    else
      let value := digits.foldl (fun n c => n * 8 + (c.toNat - 48)) 0
      -- Three digits that are no byte are two digits and a character.
      if 255 < value then some (Char.ofNat (value / 8), (c :: rest).drop 2)
      else some (Char.ofNat value, (c :: rest).drop digits.length)
  | c :: rest => some (c, rest)

/-- The text up to a mark and a closing bracket. -/
def bracketed (mark : Char) : List Char → Option (List Char × List Char)
  | [] => none
  | c :: rest =>
    if c = mark && rest.head? = some ']' then some ([], rest.drop 1)
    else (bracketed mark rest).map fun (text, rest) => (c :: text, rest)

/-- The number of repetitions in brackets; a zero in front makes it octal. -/
def repeatCount? (cs : List Char) : Option Nat :=
  match cs with
  | '0' :: _ =>
    if cs.all fun c => '0' ≤ c && c ≤ '7' then
      some (cs.foldl (fun n c => n * 8 + (c.toNat - 48)) 0)
    else none
  | cs => if cs.all Char.isDigit then some (Numeral.value cs) else none

/-- An item in brackets, after the opening one. -/
def bracketItem? (cs : List Char) : Except String (Option (SetItem × List Char)) :=
  let repeated : Except String (Option (SetItem × List Char)) :=
    match setChar cs with
    | some (c, '*' :: rest) =>
      let inner := rest.takeWhile (· ≠ ']')
      match rest.drop inner.length with
      | [] => .ok none
      | _ :: after =>
        match repeatCount? inner with
        | some n => .ok (some (.again c (if n = 0 then none else some n), after))
        | none => .error ("invalid repeat count " ++ quotedWord (String.ofList inner) ++
            " in [c*n] construct")
    | _ => .ok none
  match cs with
  | ':' :: inner =>
    match bracketed ':' inner with
    | some (name, rest) =>
      if (Text.classRanges? (String.ofList name)).isSome then
        .ok (some (.named (String.ofList name), rest))
      else if name.isEmpty then .error "missing character class name '[::]'"
      else .error ("invalid character class " ++ quotedWord (String.ofList name))
    | none => repeated
  | '=' :: inner =>
    match bracketed '=' inner with
    | some ([c], rest) => .ok (some (.char c, rest))
    | some ([], _) => .error "missing equivalence class character '[==]'"
    | some (text, _) =>
      .error (String.ofList text ++ ": equivalence class operand must be a single character")
    | none => repeated
  | _ => repeated

/-- The items of a set. -/
def setItems : Nat → List Char → Except String (List SetItem)
  | 0, _ => .ok []
  | _ + 1, [] => .ok []
  | fuel + 1, c :: rest => do
    match ← if c = '[' then bracketItem? rest else .ok none with
    | some (item, rest) => .ok (item :: (← setItems fuel rest))
    | none =>
      match setChar (c :: rest) with
      | none => .ok []
      | some (lo, '-' :: after) =>
        match setChar after with
        | some (hi, rest) =>
          if hi < lo then
            let text := (c :: rest).head?.toList
            let shown := text ++ '-' :: [hi]
            .error ("range-endpoints of " ++ quotedWord (String.ofList shown) ++
              " are in reverse collating sequence order")
          else .ok (.range lo hi :: (← setItems fuel rest))
        | none => .ok [.char lo, .char '-']
      | some (c, rest) => .ok (.char c :: (← setItems fuel rest))

def charsBetween (lo hi : Char) : List Char :=
  (List.range (hi.toNat + 1 - lo.toNat)).map fun i => Char.ofNat (lo.toNat + i)

/-- The characters of an item; `room` tells how often one comes that fills up a set. -/
def SetItem.chars (room : Nat) : SetItem → List Char
  | char c => [c]
  | range lo hi => charsBetween lo hi
  | named name =>
    ((Text.classRanges? name).getD []).flatMap fun (lo, hi) => charsBetween lo hi
  | again c count => List.replicate (count.getD room) c

/-- All characters of a set that has to have so many. -/
def expandSet (items : List SetItem) (wanted : Nat) : List Char :=
  let fixed := (items.map fun item => (item.chars 0).length).foldl (· + ·) 0
  items.flatMap (SetItem.chars (wanted - fixed))

def allBytes : List Char :=
  charsBetween (Char.ofNat 0) (Char.ofNat 255)

/-- A question about bytes, answered from a table. -/
def isAmong (cs : List Char) : Char → Bool :=
  let none := Array.replicate 256 false
  let table := cs.foldl (fun (t : Array Bool) c => t.setIfInBounds c.toNat true) none
  fun c => table.getD c.toNat false

/-- The character that each one of a set becomes; the last one of the second set stands for those
that are missing there. -/
def replacement (first second : List Char) : Char → Char :=
  let last := second.getLast?
  let pairs := first.zip (second ++ (last.map fun c =>
    List.replicate (first.length - second.length) c).getD [])
  let same := allBytes.toArray
  let table := pairs.foldl (fun (t : Array Char) (a, b) => t.setIfInBounds a.toNat b) same
  fun c => table.getD c.toNat c

/-- One of several equal characters, where they are in a set. -/
def squeeze (inSet : Char → Bool) (cs : List Char) : List Char :=
  cs.foldr (fun c rest => if rest.head? = some c && inSet c then rest else c :: rest) []

/-- What has to be done to a text. -/
structure Exchange where
  complement : Bool
  delete : Bool
  squeeze : Bool
  truncate : Bool

def isCase : SetItem → Bool
  | .named name => name = "lower" || name = "upper"
  | _ => false

def isOtherClass : SetItem → Bool
  | .named name => !(name = "lower" || name = "upper")
  | _ => false

/-- What is wrong with two sets. -/
def setFault? (t : Exchange) (first second : List SetItem) : Option String :=
  if second.any isOtherClass then
    some ("when translating, the only character classes that may appear in\n" ++
      "string2 are 'upper' and 'lower'")
  else if second.any isCase && !first.any isCase then
    some "misaligned [:upper:] and/or [:lower:] construct"
  else if second.isEmpty && !t.truncate then
    some "when not truncating set1, string2 must be non-empty"
  else none

/-- A text after everything has been done to it. -/
def Exchange.apply (t : Exchange) (first second : List SetItem) (isSecond : Bool)
    (cs : List Char) : List Char :=
  let named := expandSet first 0
  let set := if t.complement then
      let inside := isAmong named
      allBytes.filter (!inside ·)
    else named
  let other := expandSet second set.length
  if t.delete then
    let gone := isAmong set
    let kept := cs.filter (!gone ·)
    if t.squeeze then Utility.squeeze (isAmong other) kept else kept
  else if isSecond then
    let set := if t.truncate then set.take other.length else set
    let changed := cs.map (replacement set other)
    if t.squeeze then Utility.squeeze (isAmong other) changed else changed
  else Utility.squeeze (isAmong set) cs

def tr : State → List String → State :=
  withOptions "tr" (leadingOptions "+AcCdst" [("complement", "c"), ("delete", "d"),
    ("squeeze-repeats", "s"), ("truncate-set1", "t")]) 1 fun s p =>
    let t : Exchange := ⟨p.has "c" || p.has "C", p.has "d", p.has "s", p.has "t"⟩
    let exchanges := !t.delete && p.operands.length = 2
    let needed := if t.delete == t.squeeze then 2 else 1
    let most := if t.delete && !t.squeeze then 1 else 2
    let fault (text : String) : State := (s.complain ("tr: " ++ text)).finish 1
    match p.operands with
    | [] => misused s "tr" "missing operand" 1
    | [a] =>
      if needed = 2 then
        let more := if t.delete then "\nTwo strings must be given when both deleting and " ++
          "squeezing repeats." else "\nTwo strings must be given when translating."
        misused s "tr" ("missing operand after " ++ quotedWord a ++ more) 1
      else
        match setItems (a.length + 1) a.toList with
        | .error text => fault text
        | .ok first =>
          let (s, bytes) := drain "tr" s
          put s (t.apply first [] false (charsFrom bytes))
    | a :: b :: rest =>
      if most < p.operands.length then
        let more := if most = 1 then
          "\nOnly one string may be given when deleting without squeezing repeats." else ""
        misused s "tr" ("extra operand " ++ quotedWord ((b :: rest)[most - 1]?.getD "") ++ more) 1
      else
        match setItems (a.length + 1) a.toList, setItems (b.length + 1) b.toList with
        | .error text, _ | _, .error text => fault text
        | .ok first, .ok second =>
          match if exchanges then setFault? t first second else none with
          | some text => fault text
          | none =>
            let (s, bytes) := drain "tr" s
            put s (t.apply first second true (charsFrom bytes))

end Montage.Utility
