import Montage.Document.Edit
import Montage.Json.Parser
import Montage.Text.Classes
import Montage.Text.LetterCase
import Montage.Text.Lines

/-!
The JSON object inside a reply: code fences are left out, and prose around the object is ignored.
-/

namespace Montage.Agent

/-- The mark of a code fence, with the name of a language behind it. -/
def fence (language : String) : List Char :=
  List.replicate 3 '\x60' ++ language.toList

def withoutFences (cs : List Char) : List Char :=
  [fence "json", fence "JSON", fence ""].foldl (fun cs mark => Text.removeAll mark cs) cs

/-- From the first opening brace to the last closing one. -/
def outermost? (cs : List Char) : Option (List Char) :=
  match (cs.dropWhile (· ≠ '\x7b')).reverse.dropWhile (· ≠ '\x7d') with
  | [] => none
  | body => some body.reverse

def payload? (text : String) : Option Json := do
  let body ← outermost? (withoutFences text.toList)
  (Json.parseChars? body).map Json.sorted

/-- A number, or a text that holds one. -/
def number? (j : Json) : Option Binary64 :=
  let read := match j with
    | .string s => Numeral.real? (Text.trim s.toList)
    | j => j.number?
  read.filter Scalar.isFinite

def numberField? (name : String) (j : Json) : Option Binary64 :=
  (j.field? name).bind number?

/-- The text of the first of the named fields that holds one. -/
def textField? (names : List String) (j : Json) : Option String :=
  names.findSome? fun name => (j.field? name).bind Json.string?

/-- The items of a field that holds an array. -/
def listField (name : String) (j : Json) : List Json :=
  ((j.field? name).bind Json.array?).getD []

end Montage.Agent

/-!
Edits as an agent writes them: kinds and words in any case, numbers also as texts, and fields under
other names. An edit that cannot be used reads as nothing.
-/

namespace Montage

/-- A word without the blanks around it, in lower case. -/
def Text.word (s : String) : String :=
  String.ofList (Text.lower (Text.trim s.toList))

def TextPosition.parse? (s : String) : Option TextPosition :=
  match Text.word s with
  | "top" => some .top
  | "center" | "centre" | "middle" => some .center
  | "bottom" => some .bottom
  | _ => none

def FadeDirection.parse? (s : String) : Option FadeDirection :=
  match Text.word s with
  | "in" | "fade_in" | "fadein" => some .fadeIn
  | "out" | "fade_out" | "fadeout" => some .fadeOut
  | _ => none

namespace Agent

/-- The rate of a change of speed that names none. -/
def usualRate (kind : String) : Binary64 :=
  if kind = "slow" then 0.5 else 1

def span? (j : Json) : Option (Span Binary64) := do
  some ⟨← numberField? "start" j, ← numberField? "end" j⟩

/-- A missing change of picture is the identity. -/
def transform? (j : Json) : Option (Transform Binary64) :=
  match j.field? "transform" with
  | none => some .identity
  | some change => Transform.ofJson? change

def edit? (j : Json) : Option (Edit Binary64) := do
  let kind := Text.word (← textField? ["type"] j)
  match kind with
  | "split" =>
    let start ← numberField? "start" j
    some (.split ⟨start, (numberField? "end" j).getD start⟩)
  | "speed" | "slow" =>
    let rate := (numberField? "rate" j).or (numberField? "speed" j)
    some (.speed (← span? j) (rate.getD (usualRate kind)))
  | "delete" => (span? j).map .delete
  | "text" =>
    let position := (textField? ["position"] j).bind TextPosition.parse?
    some (.text (← span? j) (← textField? ["text", "content"] j) (position.getD .bottom))
  | "fade" =>
    some (.fade (← span? j) (← (textField? ["direction"] j).bind FadeDirection.parse?))
  | "volume" => some (.volume (← span? j) ((numberField? "volume" j).getD 1))
  | "transform" => some (.transform (← span? j) (← transform? j))
  | "bgm" =>
    some (.music (← textField? ["keywords", "query"] j)
      ((numberField? "volume" j).getD defaultMusicVolume))
  | _ => none

end Agent

end Montage

/-!
Edits written as calls of a tool, such as `delete_segment(10, 20)`.
-/

namespace Montage.Agent

/-- The pieces between commas that stand outside quotes, without their quotes; `piece` holds what
the current one has so far, last character first. -/
def pieces (quote : Option Char) (piece : List Char) : List Char → List (List Char)
  | [] => [Text.trim piece.reverse]
  | c :: rest =>
    match quote with
    | some q => if c = q then pieces none piece rest else pieces quote (c :: piece) rest
    | none =>
      if c = '\x22' ∨ c = '\x27' then pieces (some c) piece rest
      else if c = ',' then Text.trim piece.reverse :: pieces none [] rest
      else pieces none (c :: piece) rest

/-- The arguments of a call; blanks alone are none. -/
def arguments (cs : List Char) : List (List Char) :=
  match pieces none [] cs with
  | [[]] => []
  | args => args

/-- The name before the first opening parenthesis, and the arguments up to the last closing one. -/
def call? (cs : List Char) : Option (String × List (List Char)) :=
  match cs.dropWhile (· ≠ '(') with
  | [] => none
  | _ :: rest =>
    match rest.reverse.dropWhile (· ≠ ')') with
    | [] => none
    | _ :: inner =>
      some (String.ofList (Text.trim (cs.takeWhile (· ≠ '('))), arguments inner.reverse)

def withoutMark (mark cs : List Char) : List Char :=
  if mark.isPrefixOf cs then cs.drop mark.length else cs

def numberAt? (args : List (List Char)) (index : Nat) : Option Binary64 :=
  (args[index]?.bind Numeral.real?).filter Scalar.isFinite

/-- An argument that is not empty. -/
def textAt? (args : List (List Char)) (index : Nat) : Option String :=
  (args[index]?.filter (!·.isEmpty)).map String.ofList

/-- The window from the first argument to the second. -/
def spanAt? (args : List (List Char)) : Option (Span Binary64) := do
  some ⟨← numberAt? args 0, ← numberAt? args 1⟩

/-- A fade names its start and its length. -/
def fadeCall? (direction : FadeDirection) (args : List (List Char)) : Option (Edit Binary64) := do
  let span ← spanAt? args
  some (.fade ⟨span.start, span.start + span.stop⟩ direction)

/-- The edit that a call stands for. -/
def action? (action : String) : Option (Edit Binary64) := do
  let text := Text.trim (withoutMark "Action:".toList (Text.trim action.toList))
  let (name, args) ← call? text
  match name with
  | "split_video" =>
    let start ← numberAt? args 0
    some (.split ⟨start, (numberAt? args 1).getD start⟩)
  | "adjust_speed" => some (.speed (← spanAt? args) (← numberAt? args 2))
  | "delete_segment" => (spanAt? args).map .delete
  | "add_text" =>
    let position := (textAt? args 3).bind TextPosition.parse?
    some (.text (← spanAt? args) (← textAt? args 2) (position.getD .bottom))
  | "fade_in" => fadeCall? .fadeIn args
  | "fade_out" => fadeCall? .fadeOut args
  | "add_bgm" => some (.music (← textAt? args 0) ((numberAt? args 1).getD defaultMusicVolume))
  | _ => none

end Montage.Agent
