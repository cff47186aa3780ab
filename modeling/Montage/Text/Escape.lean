/-!
Characters that are written by a backslash and what follows it.
-/

namespace Montage.Text

/-- The characters that letters stand for which cannot be seen. -/
def controlLetter? : Char → Option Char
  | 'a' => some '\x07'
  | 'b' => some '\x08'
  | 'f' => some '\x0c'
  | 'n' => some '\n'
  | 'r' => some '\r'
  | 't' => some '\t'
  | 'v' => some '\x0b'
  | _ => none

/-- The value of a digit, up to the base of sixteen. -/
def digit (c : Char) : Nat :=
  if c.isDigit then c.toNat - 48 else c.toLower.toNat - 87

def isDigitIn (base : Nat) (c : Char) : Bool :=
  (c.isDigit || ('a' ≤ c.toLower && c.toLower ≤ 'f')) && digit c < base

/-- The digits in front of a text, at most so many, and the character they stand for. -/
def charByDigits? (base most : Nat) (cs : List Char) : Option (Char × List Char) :=
  let digits := (cs.takeWhile (isDigitIn base)).take most
  if digits.isEmpty then none
  else
    let value := digits.foldl (fun n c => n * base + digit c) 0
    some (Char.ofNat (value % 256), cs.drop digits.length)

/-- The character that stands after a backslash by its letter or its digits, and what follows. -/
def escaped? (cs : List Char) : Option (Char × List Char) :=
  match cs with
  | [] => none
  | 'x' :: rest => charByDigits? 16 2 rest
  | c :: rest =>
    match controlLetter? c with
    | some d => some (d, rest)
    | none => charByDigits? 8 3 (c :: rest)

theorem charByDigits?_length {base most : Nat} {cs rest : List Char} {c : Char}
    (h : charByDigits? base most cs = some (c, rest)) : rest.length < cs.length := by
  unfold charByDigits? at h
  dsimp only at h
  split at h
  · cases h
  · rename_i nonempty
    cases h
    have taken : 0 < ((cs.takeWhile (isDigitIn base)).take most).length :=
      List.length_pos_iff.2 (by simpa using nonempty)
    have bound : ((cs.takeWhile (isDigitIn base)).take most).length ≤ cs.length :=
      Nat.le_trans (List.length_take_le' ..) (List.takeWhile_sublist _).length_le
    rw [List.length_drop]
    omega

theorem escaped?_length {cs rest : List Char} {c : Char} (h : escaped? cs = some (c, rest)) :
    rest.length < cs.length := by
  unfold escaped? at h
  split at h
  · cases h
  · have := charByDigits?_length h
    simp only [List.length_cons]
    omega
  · split at h
    · cases h
      simp
    · exact charByDigits?_length h

end Montage.Text
