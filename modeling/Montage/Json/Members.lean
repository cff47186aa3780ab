import Montage.Json.Basic

/-!
Reading records. A record is written as an object with named fields, or as an array of its fields
in order.
-/

namespace Montage.Json

/-- What a written record offers. -/
structure Members where
  find : String → Option Json
  /-- Whether the fields stand by place, so that none but the last may be left out. -/
  byPlace : Bool

/-- The members of a record with the given field names. -/
def members? (names : List String) : Json → Option Members
  | object fields => some ⟨fun name => fields.reverse.lookup name, false⟩
  | array items =>
    if items.length ≤ names.length then some ⟨fun name => (names.zip items).lookup name, true⟩
    else none
  | _ => none

/-- The members of a record that has a written form by name only. -/
def namedMembers? : Json → Option Members
  | object fields => some ⟨fun name => fields.reverse.lookup name, false⟩
  | _ => none

/-- The members after a tag, and the tag: the field `tag`, or the first place. -/
def taggedMembers? (tag : String) (j : Json) (names : String → List String) :
    Option (String × Members) :=
  match j with
  | object fields => do
    let kind ← (fields.reverse.lookup tag).bind string?
    some (kind, ⟨fun name => fields.reverse.lookup name, false⟩)
  | array (first :: rest) => do
    let kind ← first.string?
    let m ← (array rest).members? (names kind)
    some (kind, m)
  | _ => none

namespace Members

variable {α : Type}

def required (m : Members) (name : String) (read : Json → Option α) : Option α :=
  (m.find name).bind read

/-- A field that may be left out. -/
def withDefault (m : Members) (name : String) (default : α) (read : Json → Option α) : Option α :=
  match m.find name with
  | none => some default
  | some j => read j

/-- A field that may be null, and by name also left out. -/
def optional (m : Members) (name : String) (read : Json → Option α) : Option (Option α) :=
  match m.find name with
  | none => if m.byPlace then none else some none
  | some null => some none
  | some j => (read j).map some

/-- A field that may be null or left out. -/
def optionalWithDefault (m : Members) (name : String) (read : Json → Option α) :
    Option (Option α) :=
  match m.find name with
  | none | some null => some none
  | some j => (read j).map some

end Members

def listOf? {α : Type} (read : Json → Option α) : Json → Option (List α)
  | array items => items.mapM read
  | _ => none

/-- A choice written as its name, or as an object from its name to null. -/
def choice? {α : Type} (choices : List (String × α)) : Json → Option α
  | string s => choices.lookup s
  | object [(name, null)] => choices.lookup name
  | _ => none

/-- A choice in a tagged record, where an empty object is as good as null. -/
def choiceBesideTag? {α : Type} (choices : List (String × α)) : Json → Option α
  | object [(name, object [])] => choices.lookup name
  | j => j.choice? choices

end Montage.Json
