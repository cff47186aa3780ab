/-!
Cutting a text into lines and at marks.
-/

namespace Montage.Text

/-- The pieces between marks; one more piece than there are marks. -/
def splitOn (isMark : Char → Bool) : List Char → List (List Char)
  | [] => [[]]
  | c :: rest =>
    if isMark c then [] :: splitOn isMark rest
    else match splitOn isMark rest with
      | [] => [[c]]
      | piece :: pieces => (c :: piece) :: pieces

def withoutReturn (line : List Char) : List Char :=
  if line.getLast? = some '\r' then line.dropLast else line

/-- Lines end at a line feed, with or without a carriage return before it. An empty last line does
not count. -/
def lines (cs : List Char) : List (List Char) :=
  let pieces := splitOn (· = '\n') cs
  let ended := pieces.dropLast.map withoutReturn
  match pieces.getLast? with
  | none | some [] => ended
  | some last => ended ++ [last]

/-- Every occurrence of `mark` left out, searching from the left. -/
def removeAll (mark : List Char) (cs : List Char) : List Char :=
  match cs with
  | [] => []
  | c :: rest =>
    if mark ≠ [] ∧ mark.isPrefixOf (c :: rest) then removeAll mark (rest.drop (mark.length - 1))
    else c :: removeAll mark rest
termination_by cs.length
decreasing_by
  · simp only [List.length_drop, List.length_cons]
    omega
  · simp

def startsWith (mark cs : List Char) : Bool :=
  mark.isPrefixOf cs

/-- Whether `part` occurs in `cs`. -/
def contains (part : List Char) : List Char → Bool
  | [] => part.isEmpty
  | c :: rest => part.isPrefixOf (c :: rest) || contains part rest

end Montage.Text
