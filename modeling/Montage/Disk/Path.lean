import Montage.Text.Lines

/-!
Paths: names between slashes.
-/

namespace Montage

structure Path where
  text : String
  deriving DecidableEq

namespace Path

def isAbsolute (p : Path) : Bool :=
  p.text.toList.head? = some '/'

/-- What stands between the slashes, dots among it. -/
def steps (p : Path) : List String :=
  ((Text.splitOn (· = '/') p.text.toList).map String.ofList).filter (· ≠ "")

/-- The names along the path. Single dots lead nowhere and are left out. -/
def names (p : Path) : List String :=
  p.steps.filter (· ≠ ".")

def endsInSlash (p : Path) : Bool :=
  p.text.toList.getLast? = some '/'

/-- Some names one below the other. -/
def ofNames (absolute : Bool) (names : List String) : Path :=
  ⟨(if absolute then "/" else "") ++ "/".intercalate names⟩

/-- A path below another one; an absolute path stands for itself. -/
def join (base p : Path) : Path :=
  if p.isAbsolute ∨ base.text.isEmpty then p
  else if base.endsInSlash then ⟨base.text ++ p.text⟩
  else ⟨base.text ++ "/" ++ p.text⟩

/-- The last name, unless it leads upward. -/
def fileName? (p : Path) : Option String :=
  p.names.getLast?.filter (· ≠ "..")

/-- A file name cut at its last dot. A dot in front cuts nothing. -/
def cutName (name : String) : String × Option String :=
  let tail := name.toList.reverse.takeWhile (· ≠ '.')
  let stem := (name.toList.reverse.drop (tail.length + 1)).reverse
  if stem.isEmpty then (name, none) else (String.ofList stem, some (String.ofList tail.reverse))

/-- The last name without its extension. -/
def stem? (p : Path) : Option String :=
  p.fileName?.map fun name => (cutName name).1

/-- What follows the last dot of the last name. -/
def extension? (p : Path) : Option String :=
  p.fileName?.bind fun name => (cutName name).2

/-- The path without its last name. -/
def parent? (p : Path) : Option Path :=
  match p.names with
  | [] => none
  | names => some (ofNames p.isAbsolute names.dropLast)

/-- The same names from the same place. -/
def Same (p q : Path) : Prop :=
  p.isAbsolute = q.isAbsolute ∧ p.names = q.names

instance (p q : Path) : Decidable (Same p q) :=
  inferInstanceAs (Decidable (_ ∧ _))

end Path

end Montage
