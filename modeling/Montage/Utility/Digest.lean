import Montage.Checksum.Hash
import Montage.Utility.Input

/-!
Checksums of files: written, and compared with what was written.
-/

namespace Montage.Utility

open Shell

/-- A way to make a short text of a message. -/
structure Digest where
  /-- The name that tagged lines begin with. -/
  tag : String
  /-- How many bytes it has. -/
  size : Nat
  bytes : Text.Bytes → Text.Bytes

namespace Digest

/-- The digests, with the names by which one is chosen. -/
def known : List (String × Digest) :=
  [("md5", ⟨"MD5", 16, Checksum.Md5.digest⟩), ("sha1", ⟨"SHA1", 20, Checksum.Sha1.digest⟩),
    ("sha224", ⟨"SHA224", 28, Checksum.Sha2.digest224⟩),
    ("sha256", ⟨"SHA256", 32, Checksum.Sha2.digest256⟩),
    ("sha384", ⟨"SHA384", 48, Checksum.Sha2.digest384⟩),
    ("sha512", ⟨"SHA512", 64, Checksum.Sha2.digest512⟩)]

/-- Two digits for each byte. -/
def hexText (bytes : Text.Bytes) : List Char :=
  bytes.flatMap fun b => [Nat.digitChar (b.toNat / 16), Nat.digitChar (b.toNat % 16)]

def text (d : Digest) (bytes : Text.Bytes) : List Char :=
  hexText (d.bytes bytes)

/-- A name with escapes for what would not fit in a line. -/
def escapedName (name : List Char) : List Char :=
  name.flatMap fun c =>
    match c with
    | '\\' => ['\\', '\\']
    | '\n' => ['\\', 'n']
    | '\r' => ['\\', 'r']
    | c => [c]

/-- The name without its escapes, unless one of them stands for nothing. -/
def unescapedName? : List Char → Option (List Char)
  | [] => some []
  | '\\' :: '\\' :: rest => (unescapedName? rest).map ('\\' :: ·)
  | '\\' :: 'n' :: rest => (unescapedName? rest).map ('\n' :: ·)
  | '\\' :: 'r' :: rest => (unescapedName? rest).map ('\r' :: ·)
  | '\\' :: _ => none
  | c :: rest => (unescapedName? rest).map (c :: ·)

/-- How lines are written. -/
structure Layout where
  tagged : Bool
  binary : Bool
  ending : Char

/-- The line for a file. -/
def line (d : Digest) (l : Layout) (name : String) (bytes : Text.Bytes) : List Char :=
  let cs := name.toList
  let shown := if l.ending = '\n' then escapedName cs else cs
  let mark := if shown = cs then [] else ['\\']
  let parts :=
    if l.tagged then d.tag.toList ++ " (".toList ++ shown ++ ") = ".toList ++ d.text bytes
    else d.text bytes ++ [' ', if l.binary then '*' else ' '] ++ shown
  mark ++ parts ++ [l.ending]

/-- Whether a text can be what the digest makes. -/
def fits (d : Digest) (cs : List Char) : Bool :=
  cs.length = 2 * d.size && cs.all fun c => c.isDigit || "abcdefABCDEF".toList.contains c

/-- What a tagged line says: the digest and the name. -/
def readTagged? (d : Digest) (cs : List Char) : Option (List Char × List Char) := do
  let rest := cs.dropWhile (· = ' ')
  if rest.head? ≠ some '(' then none
  let reversed := rest.tail.reverse
  let digest := (reversed.takeWhile (· ≠ ')')).reverse
  let name := (reversed.drop (digest.length + 1)).reverse
  if digest.length = reversed.length then none
  let isBlank (c : Char) : Bool := c = ' ' || c = '\t'
  match digest.dropWhile isBlank with
  | '=' :: digest =>
    let digest := digest.dropWhile isBlank
    if d.fits digest then some (digest, name) else none
  | _ => none

/-- What a line says: the digest and the name of a file. -/
def read? (d : Digest) (cs : List Char) : Option (List Char × String) := do
  let cs := cs.dropWhile fun c => c = ' ' || c = '\t'
  let escaped := cs.head? = some '\\'
  let cs := if escaped then cs.drop 1 else cs
  let (digest, name) ←
    if d.tag.toList.isPrefixOf cs then d.readTagged? (cs.drop d.tag.length)
    else
      let digest := cs.take (2 * d.size)
      let rest := cs.drop (2 * d.size)
      if d.fits digest then
        match rest with
        | ' ' :: x :: y :: rest | '\t' :: x :: y :: rest =>
          if x = ' ' || x = '*' then some (digest, y :: rest) else some (digest, x :: y :: rest)
        | ' ' :: x :: rest | '\t' :: x :: rest => some (digest, x :: rest)
        | _ => none
      else none
  let name ← if escaped then unescapedName? name else some name
  some (digest, String.ofList name)

/-- What has been found while lines are compared with files. -/
structure Report where
  shell : State
  row : Nat
  malformed : Nat
  formed : Nat
  unread : Nat
  different : Nat
  same : Nat

/-- What is to be said while lines are compared with files. -/
structure Manner where
  command : String
  /-- The last of the options that say how much is told. -/
  level : Option String
  strict : Bool
  ignoresMissing : Bool

/-- Something about one of the files. -/
def Report.tell (r : Report) (m : Manner) (name text : String) : Report :=
  if m.level = some "status" then r
  else
    let shown := String.ofList (escapedName name.toList)
    let mark := if shown = name then "" else "\\"
    { r with shell := r.shell.say (mark ++ shown ++ ": " ++ text ++ "\n") }

/-- One line compared with its file. -/
def Report.take (d : Digest) (m : Manner) (source : String) (r : Report) (cs : List Char) :
    Report :=
  let r := { r with row := r.row + 1 }
  let cs := if cs.getLast? = some '\r' then cs.dropLast else cs
  if cs.isEmpty || cs.head? = some '#' then r
  else match d.read? cs with
    | none =>
      let r := { r with malformed := r.malformed + 1 }
      if m.level = some "w" then
        { r with shell := r.shell.complain (m.command ++ ": " ++ shownName source ++ ": " ++
          Decimal.natural r.row ++ ": improperly formatted " ++ d.tag ++ " checksum line") }
      else r
    | some (digest, name) =>
      let r := { r with formed := r.formed + 1 }
      match content r.shell name with
      | .error e =>
        if m.ignoresMissing && e = .notFound then r
        else
          let shell := r.shell.complain (m.command ++ ": " ++ plainWording name e)
          { r with shell, unread := r.unread + 1 }.tell m name "FAILED open or read"
      | .ok (s, bytes) =>
        let r := { r with shell := s }
        if d.text bytes = digest.map Char.toLower then
          let r := { r with same := r.same + 1 }
          if m.level = some "quiet" then r else r.tell m name "OK"
        else { r with different := r.different + 1 }.tell m name "FAILED"

/-- A count of something that went wrong, if there is one. -/
def Report.warn (r : Report) (m : Manner) (count : Nat) (one more : String) : Report :=
  if count = 0 then r
  else
    let text := m.command ++ ": WARNING: " ++ Decimal.natural count ++ " " ++
      if count = 1 then one else more
    { r with shell := r.shell.complain text }

/-- All lines of a file compared with the files that they name. -/
def compare (d : Digest) (m : Manner) (s : State) (name : String) (cs : List Char) : State :=
  let source := if name = "-" then "standard input" else name
  let r := (bareLines '\n' cs).foldl (Report.take d m source) ⟨s, 0, 0, 0, 0, 0, 0⟩
  if r.formed = 0 then
    (r.shell.complain (m.command ++ ": " ++ shownName source ++
      ": no properly formatted checksum lines found")).finish 1
  else
    let silent := m.level = some "status"
    let r := if silent then r
      else
        let r := r.warn m r.malformed "line is improperly formatted"
          "lines are improperly formatted"
        let r := r.warn m r.unread "listed file could not be read"
          "listed files could not be read"
        r.warn m r.different "computed checksum did NOT match" "computed checksums did NOT match"
    let unverified := m.ignoresMissing && r.same = 0
    let s := if unverified && !silent then
        r.shell.complain (m.command ++ ": " ++ shownName source ++ ": no file was verified")
      else r.shell
    if r.different = 0 && r.unread = 0 && !unverified && !(m.strict && 0 < r.malformed) then s
    else s.finish 1

end Digest

/-- The options that only make sense where checksums are compared, with their keys. -/
def comparingOptions : List (String × String) :=
  [("ignore-missing", "ignore"), ("status", "status"), ("warn", "w"), ("quiet", "quiet"),
    ("strict", "strict")]

/-- What is wrong with options that are given together, if something is. -/
def digestTrouble? (p : Parsed) : Option String :=
  let kind := p.last? ["b", "t", "tag"]
  if p.has "tag" && kind = some "t" then some "--tag does not support --text mode"
  else if p.has "c" then
    if p.has "z" then some "the --zero option is not supported when verifying checksums"
    else if p.has "tag" then some "the --tag option is meaningless when verifying checksums"
    else if kind.isSome then
      some "the --binary and --text options are meaningless when verifying checksums"
    else none
  else
    let level := p.last? ["status", "w", "quiet"]
    (comparingOptions.find? fun (_, key) =>
      if ["status", "w", "quiet"].contains key then level = some key else p.has key).map
        fun (name, _) => "the --" ++ name ++ " option is meaningful only when verifying checksums"

/-- A command that writes digests of files or compares files with them. -/
def digestCommand (command key : String) : State → List String → State :=
  withOptions command (options "bctwz" ([("binary", "b"), ("check", "c"), ("text", "t"),
    ("tag", "tag"), ("zero", "z")] ++ comparingOptions)) 1 fun s p =>
    match Digest.known.lookup key, digestTrouble? p with
    | none, _ => s.finish 1
    | _, some text => misused s command text 1
    | some d, none =>
      if p.has "c" then
        let m : Digest.Manner := ⟨command, p.last? ["status", "w", "quiet"], p.has "strict",
          p.has "ignore"⟩
        eachFile command plainWording p.operands (d.compare m) s
      else
        let l : Digest.Layout := ⟨p.has "tag", p.last? ["b", "t"] = some "b",
          if p.has "z" then '\x00' else '\n'⟩
        eachFile command plainWording p.operands
          (fun s name cs => put s (d.line l name (bytesOf cs))) s

/-- The end of a line about a file that has been named. -/
def namedEnd (p : Parsed) (name : String) : String :=
  if p.operands.isEmpty then "\n" else " " ++ name ++ "\n"

def cksum : State → List String → State :=
  withOptions "cksum" (options "a:" [("algorithm=", "a"), ("untagged", "untagged")]) 1 fun s p =>
    let kind := (p.value? "a").getD "crc"
    match Digest.known.lookup kind with
    | some d =>
      let l : Digest.Layout := ⟨!p.has "untagged", false, '\n'⟩
      eachFile "cksum" plainWording p.operands
        (fun s name cs => put s (d.line l name (bytesOf cs))) s
    | none =>
      if kind = "crc" then
        eachFile "cksum" plainWording p.operands (fun s name cs =>
          let sum := Checksum.cyclic (bytesOf cs)
          s.say (Decimal.natural sum.toNat ++ " " ++ Decimal.natural cs.length ++
            namedEnd p name)) s
      else misused s "cksum" ("invalid argument " ++ quotedName kind ++ " for '--algorithm'") 1

def sum : State → List String → State :=
  withOptions "sum" (options "rs" [("sysv", "s")]) 1 fun s p =>
    eachFile "sum" plainWording p.operands (fun s name cs =>
      let bytes := bytesOf cs
      if p.last? ["r", "s"] = some "s" then
        s.say (Decimal.natural (Checksum.plain bytes) ++ " " ++
          Decimal.natural ((cs.length + 511) / 512) ++ namedEnd p name)
      else
        let digits := (Decimal.natural (Checksum.turning bytes)).toList
        let blocks := (Decimal.natural ((cs.length + 1023) / 1024)).toList
        put s (List.replicate (5 - digits.length) '0' ++ digits ++ [' '] ++ padLeft 5 blocks ++
          (namedEnd p name).toList)) s

end Montage.Utility
