import Montage.Number.Floating

/-!
JSON values. Numbers written without a fraction or an exponent stay whole.
-/

namespace Montage

inductive Json
  | null
  | bool (b : Bool)
  | integer (n : Int)
  | real (x : Binary64)
  | string (s : String)
  | array (items : List Json)
  | object (fields : List (String × Json))

namespace Json

/-- The value of a field; of several with one name, the last. -/
def field? (name : String) : Json → Option Json
  | object fields => fields.reverse.lookup name
  | _ => none

def number? : Json → Option Binary64
  | integer n => some (.ofInt n)
  | real x => some x
  | _ => none

def string? : Json → Option String
  | string s => some s
  | _ => none

def array? : Json → Option (List Json)
  | array items => some items
  | _ => none

def bool? : Json → Option Bool
  | bool b => some b
  | _ => none

/-- A whole number from zero up to, but not including, `limit`. -/
def natural? (limit : Nat) : Json → Option Nat
  | integer n => if 0 ≤ n ∧ n < limit then some n.toNat else none
  | _ => none

/-- A number, or null for what no number of JSON can stand for. -/
def ofReal : Binary64 → Json
  | .finite s u h => real (.finite s u h)
  | _ => null

def ofNat (n : Nat) : Json :=
  integer n

def ofOption {α : Type} (write : α → Json) : Option α → Json
  | some a => write a
  | none => null

/-- A field put into a list sorted by name, in place of one with the same name. -/
def insertField (field : String × Json) : List (String × Json) → List (String × Json)
  | [] => [field]
  | other :: rest =>
    if field.1 = other.1 then field :: rest
    else if field.1 < other.1 then field :: other :: rest
    else other :: insertField field rest

mutual

/-- Fields in the order of their names, the last of each name kept. -/
def sorted : Json → Json
  | array items => array (sortedItems items)
  | object fields => object (sortedFields fields [])
  | j => j

def sortedItems : List Json → List Json
  | [] => []
  | j :: rest => sorted j :: sortedItems rest

def sortedFields : List (String × Json) → List (String × Json) → List (String × Json)
  | [], done => done
  | (name, j) :: rest, done => sortedFields rest (insertField (name, sorted j) done)

end

end Json

end Montage
