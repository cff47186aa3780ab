import Montage.Text.Classes

/-!
Regular expressions: what they are made of.
-/

namespace Montage

/-- One character inside, or outside, all of some ranges. -/
structure CharSet where
  inside : Bool
  ranges : List (Char × Char)

namespace CharSet

def single (c : Char) : CharSet :=
  ⟨true, [(c, c)]⟩

/-- Any character at all. -/
def any : CharSet :=
  ⟨false, []⟩

def word : CharSet :=
  ⟨true, ('_', '_') :: (Text.classRanges? "alnum").getD []⟩

def space : CharSet :=
  ⟨true, (Text.classRanges? "space").getD []⟩

def complement (s : CharSet) : CharSet :=
  { s with inside := !s.inside }

def lies (s : CharSet) (c : Char) : Bool :=
  s.ranges.any fun (lo, hi) => lo ≤ c && c ≤ hi

def holds (s : CharSet) (c : Char) : Bool :=
  s.lies c = s.inside

/-- A letter in the other case. -/
def swapCase (c : Char) : Char :=
  if c.isUpper then c.toLower else c.toUpper

/-- The same where the case of letters does not matter. -/
def holdsIn (s : CharSet) (ignoreCase : Bool) (c : Char) : Bool :=
  if ignoreCase then (s.lies c || s.lies (swapCase c)) = s.inside else s.holds c

end CharSet

/-- A place between two characters that is told by what stands around it. -/
inductive Edge
  | lineStart
  | lineEnd
  | textStart
  | textEnd
  | wordStart
  | wordEnd
  | word
  | noWord

inductive Regex
  /-- The empty text. -/
  | nothing
  | one (set : CharSet)
  | edge (e : Edge)
  | both (first second : Regex)
  | either (first second : Regex)
  /-- So many times at least, and at most if there is a bound. -/
  | times (inner : Regex) (least : Nat) (most : Option Nat)
  /-- A part whose match is remembered under a number. -/
  | group (number : Nat) (inner : Regex)
  /-- What a part has matched, once more. -/
  | again (number : Nat)

namespace Regex

/-- Whether what a part has matched is asked for again. -/
def looksBack : Regex → Bool
  | nothing | one _ | edge _ => false
  | both a b | either a b => a.looksBack || b.looksBack
  | times a _ _ | group _ a => a.looksBack
  | again _ => true

/-- The number of remembered parts. -/
def groups : Regex → Nat
  | nothing | one _ | edge _ | again _ => 0
  | both a b | either a b => a.groups + b.groups
  | times a _ _ => a.groups
  | group _ a => a.groups + 1

/-- A text that stands for itself. -/
def literal (cs : List Char) : Regex :=
  cs.foldr (fun c rest => both (one (.single c)) rest) nothing

end Regex

end Montage

/-!
Where a regular expression matches: at the first place where it can, and as much as it can there. Of
several ways to match the same text the first one counts, earlier alternatives before later ones and
more repetitions before fewer.
-/

namespace Montage.Regex

/-- How texts are looked at. -/
structure Look where
  ignoreCase : Bool
  /-- Lines inside a text have a start and an end of their own. -/
  byLine : Bool

/-- A place in a text: how far it is from the start, the character before it and the text after
it. -/
structure Point where
  offset : Nat
  before : Option Char
  rest : List Char

/-- The remembered parts by their numbers, each with its first offset and the one after it; the
latest first. -/
abbrev Captures := List (Nat × Nat × Nat)

abbrev Found := Point × Captures

namespace Point

def start (text : List Char) : Point :=
  ⟨0, none, text⟩

/-- The place after the next character. -/
def next? (p : Point) : Option (Char × Point) :=
  match p.rest with
  | [] => none
  | c :: rest => some (c, ⟨p.offset + 1, some c, rest⟩)

def skip (p : Point) (count : Nat) : Point :=
  if count = 0 then p
  else ⟨p.offset + count, p.rest[count - 1]?, p.rest.drop count⟩

/-- All places that are reached over characters of one set, the farthest first. -/
def passing (p : Point) (holds : Char → Bool) : List Point :=
  (p.rest.takeWhile holds).foldl (fun points _ =>
    match points.head?.bind next? with
    | some (_, q) => q :: points
    | none => points) [p]

end Point

def isWord (c : Char) : Bool :=
  CharSet.word.holds c

def edgeHolds (look : Look) (p : Point) : Edge → Bool
  | .lineStart => p.before.isNone || (look.byLine && p.before = some '\n')
  | .lineEnd => p.rest.isEmpty || (look.byLine && p.rest.head? = some '\n')
  | .textStart => p.before.isNone
  | .textEnd => p.rest.isEmpty
  | .wordStart => !(p.before.any isWord) && p.rest.head?.any isWord
  | .wordEnd => p.before.any isWord && !(p.rest.head?.any isWord)
  | .word => p.before.any isWord ≠ p.rest.head?.any isWord
  | .noWord => p.before.any isWord = p.rest.head?.any isWord

/-- The first way to each place. What has been remembered tells ways apart where it is looked at. -/
def settle (looksBack : Bool) (found : List Found) : List Found :=
  (found.foldl (fun (kept : List Found) (p, captures) =>
    let same : Found → Bool := fun (q, others) =>
      q.offset = p.offset && (!looksBack || others == captures)
    if kept.any same then kept else (p, captures) :: kept) []).reverse

/-- All ways to go on by repeated steps, those with more steps first. A step that leads nowhere, or
to a place that has been reached, ends there. -/
def repeated (step : Found → List Found) : Nat → List Nat → Found → List Found × List Nat
  | 0, seen, _ => ([], seen)
  | fuel + 1, seen, p =>
    (step p).foldl (fun (found, seen) q =>
      if seen.contains q.1.offset then (found, seen)
      else
        let (more, seen) := repeated step fuel (q.1.offset :: seen) q
        (found ++ more ++ [q], seen)) ([], seen)

/-- All ways by at most so many steps. -/
def optional (step : Found → List Found) : Nat → Found → List Found
  | 0, p => [p]
  | count + 1, p =>
    ((step p).filter fun q => p.1.offset < q.1.offset).flatMap (optional step count) ++ [p]

/-- All ways by exactly so many steps. -/
def rounds (looksBack : Bool) (step : Found → List Found) : Nat → List Found → List Found
  | 0, found => found
  | count + 1, found => rounds looksBack step count (settle looksBack (found.flatMap step))

/-- The text of a remembered part. -/
def captured (text : List Char) (captures : Captures) (number : Nat) : Option (List Char) :=
  (captures.lookup number).map fun (start, stop) => (text.drop start).take (stop - start)

/-- All ways to match from a place, in order of preference. -/
def ends (look : Look) (text : List Char) (looksBack : Bool) : Regex → Found → List Found
  | nothing, p => [p]
  | one set, (p, captures) =>
    match p.next? with
    | some (c, q) => if set.holdsIn look.ignoreCase c then [(q, captures)] else []
    | none => []
  | edge e, p => if edgeHolds look p.1 e then [p] else []
  | both a b, p =>
    settle looksBack ((ends look text looksBack a p).flatMap (ends look text looksBack b))
  | either a b, p =>
    settle looksBack (ends look text looksBack a p ++ ends look text looksBack b p)
  | times (one set) least none, (p, captures) =>
    ((p.passing (set.holdsIn look.ignoreCase)).filter fun q => p.offset + least ≤ q.offset).map
      (·, captures)
  | times a least most, p =>
    let step := ends look text looksBack a
    let start := rounds looksBack step least [p]
    settle looksBack (start.flatMap fun q =>
      match most with
      | none => (repeated step (q.1.rest.length + 1) [q.1.offset] q).1 ++ [q]
      | some most => optional step (most - least) q)
  | group n a, p =>
    (ends look text looksBack a p).map fun (q, captures) =>
      (q, (n, p.1.offset, q.offset) :: captures)
  | again n, (p, captures) =>
    match captured text captures n with
    | none => []
    | some part =>
      let here := p.rest.take part.length
      let same := here == part ||
        (look.ignoreCase && here.map Char.toLower == part.map Char.toLower)
      if same then [(p.skip part.length, captures)] else []

/-- A match: where it begins and ends, and the remembered parts. -/
structure Match where
  start : Nat
  stop : Nat
  captures : Captures

/-- The longest match at a place. -/
def matchAt? (r : Regex) (look : Look) (text : List Char) (p : Point) : Option Match :=
  let found := ends look text r.looksBack r (p, [])
  let best := found.foldl (fun (best : Option Found) q =>
    match best with
    | some b => if b.1.offset < q.1.offset then some q else best
    | none => some q) none
  best.map fun (q, captures) => ⟨p.offset, q.offset, captures⟩

/-- The first match from a place on. -/
def findFrom? (r : Regex) (look : Look) (text : List Char) : Nat → Point → Option Match
  | 0, _ => none
  | fuel + 1, p =>
    match r.matchAt? look text p with
    | some m => some m
    | none =>
      match p.next? with
      | some (_, q) => findFrom? r look text fuel q
      | none => none

/-- The first match from an offset on. -/
def find? (r : Regex) (look : Look) (text : List Char) (offset : Nat) : Option Match :=
  findFrom? r look text (text.length + 1) ((Point.start text).skip offset)

def occurs (r : Regex) (look : Look) (text : List Char) : Bool :=
  (r.find? look text 0).isSome

/-- The text of a match. -/
def Match.text (m : Match) (text : List Char) : List Char :=
  (text.drop m.start).take (m.stop - m.start)

end Montage.Regex
