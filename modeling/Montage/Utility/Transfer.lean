import Montage.Utility.Input
import Montage.Utility.Tree

/-!
Copying by blocks from one place in a file to another one.
-/

namespace Montage.Utility

open Shell

namespace Transfer

/-- What is to be copied and how. -/
structure Order where
  input : Option String
  output : Option String
  inputBlock : Nat
  outputBlock : Nat
  /-- Blocks are written as they are read. -/
  together : Bool
  count : Option Nat
  skip : Nat
  seek : Nat
  conversions : List String
  status : String
  flags : List String

def Order.usual : Order :=
  ⟨none, none, 512, 512, false, none, 0, 0, [], "", []⟩

/-- A number of bytes or blocks: factors with suffixes. -/
def number? (text : String) : Option Nat :=
  let factor (cs : List Char) : Option Nat :=
    let digits := cs.takeWhile Char.isDigit
    match cs.drop digits.length with
    | ['c'] => if digits.isEmpty then none else some (Numeral.value digits)
    | ['w'] => if digits.isEmpty then none else some (Numeral.value digits * 2)
    | _ => count? cs
  (Text.splitOn (· = 'x') text.toList).foldlM (fun n cs => (factor cs).map (n * ·)) 1

def knownConversions : List String :=
  ["notrunc", "ucase", "lcase", "swab", "sync", "noerror", "excl", "nocreat", "fsync", "fdatasync",
    "sparse"]

/-- What is wrong with an order: the words, and whether they are about how the command is called. -/
abbrev Fault := String × Bool

/-- An order with one more operand. -/
def Order.add (o : Order) (operand : String) : Except Fault Order :=
  let key := String.ofList (operand.toList.takeWhile (· ≠ '='))
  let text := String.ofList (operand.toList.drop (key.length + 1))
  let words := (Text.splitOn (· = ',') text.toList).map String.ofList
  let unknown : Fault := ("unrecognized operand " ++ quotedWord operand, true)
  let numbered (least : Nat) (change : Nat → Order) : Except Fault Order :=
    match number? text with
    | some n => if least ≤ n then .ok (change n) else
        .error ("invalid number: " ++ quotedWord text, false)
    | none => .error ("invalid number: " ++ quotedWord text, false)
  if !operand.toList.contains '=' then .error unknown
  else match key with
    | "if" => .ok { o with input := some text }
    | "of" => .ok { o with output := some text }
    | "bs" => numbered 1 fun n => { o with inputBlock := n, outputBlock := n, together := true }
    | "ibs" => numbered 1 fun n => { o with inputBlock := n }
    | "obs" => numbered 1 fun n => { o with outputBlock := n }
    | "cbs" => numbered 1 fun _ => o
    | "count" => numbered 0 fun n => { o with count := some n }
    | "skip" | "iseek" => numbered 0 fun n => { o with skip := n }
    | "seek" | "oseek" => numbered 0 fun n => { o with seek := n }
    | "conv" =>
      match words.find? fun word => !knownConversions.contains word with
      | some word => .error ("invalid conversion: " ++ quotedWord word, true)
      | none => .ok { o with conversions := o.conversions ++ words }
    | "status" =>
      if ["none", "noxfer", "progress"].contains text then .ok { o with status := text }
      else .error ("invalid status level: " ++ quotedWord text, true)
    | "iflag" | "oflag" => .ok { o with flags := o.flags ++ words.map (key ++ "=" ++ ·) }
    | _ => .error unknown

/-- Each two bytes in the other order. -/
def swapped : Text.Bytes → Text.Bytes
  | a :: b :: rest => b :: a :: swapped rest
  | rest => rest

/-- The bytes after the conversions that are asked for. -/
def Order.convert (o : Order) (bytes : Text.Bytes) : Text.Bytes :=
  let has (word : String) : Bool := o.conversions.contains word
  let upper (b : UInt8) : UInt8 := if 97 ≤ b && b ≤ 122 then b - 32 else b
  let lower (b : UInt8) : UInt8 := if 65 ≤ b && b ≤ 90 then b + 32 else b
  let bytes := if has "swab" then swapped bytes else bytes
  let bytes := if has "ucase" then bytes.map upper
    else if has "lcase" then bytes.map lower
    else bytes
  if has "sync" then
    bytes ++ List.replicate ((o.inputBlock - bytes.length % o.inputBlock) % o.inputBlock) 0
  else bytes

/-- Whole blocks and a part of one, as they are told. -/
def blocksText (block length : Nat) : String :=
  Decimal.natural (length / block) ++ "+" ++ (if length % block = 0 then "0" else "1")

/-- The lines about what has been copied. -/
def Order.report (o : Order) (read written : Nat) : List String :=
  let records := [blocksText o.inputBlock read ++ " records in",
    blocksText o.outputBlock written ++ " records out"]
  let size := if written = 1 then "1 byte" else Decimal.natural written ++ " bytes"
  match o.status with
  | "none" => []
  | "noxfer" => records
  | _ => records ++ [size ++ " copied, 0 s, Infinity B/s"]

/-- The bytes that are to be read: as many as are asked for where a device gives them without
end. -/
def Order.take (o : Order) (s : State) :
    Except FileError (State × Text.Bytes × Text.Bytes) :=
  let name := o.input.getD "-"
  let isEndless := match s.disk.look (pathOf name) with
    | .ok (.file id) =>
      let kind := (s.disk.content id).kind
      decide (o.input.isSome && (kind = .zeros || kind = .full))
    | _ => false
  match isEndless, o.count with
  | true, some count =>
    let size := if o.flags.contains "iflag=count_bytes" then count else count * o.inputBlock
    .ok (s, List.replicate size 0, [])
  | _, _ => do
    let (s, bytes) ← content s name
    let skip := if o.flags.contains "iflag=skip_bytes" then o.skip else o.skip * o.inputBlock
    let bytes := bytes.drop skip
    match o.count with
    | none => .ok (s, bytes, [])
    | some count =>
      let size := if o.flags.contains "iflag=count_bytes" then count else count * o.inputBlock
      .ok (s, bytes.take size, bytes.drop size)

/-- The bytes put where they belong. -/
def Order.put (o : Order) (s : State) (bytes : Text.Bytes) : Except FileError State :=
  match o.output with
  | none => .ok (s.write 1 bytes)
  | some name =>
    match State.streamNumber? name with
    | some n => .ok (s.write n bytes)
    | none => do
      let missing := !s.disk.isThere (pathOf name)
      if o.conversions.contains "excl" && !missing then .error .alreadyExists
      else if o.conversions.contains "nocreat" && missing then .error .notFound
      else
        let (d, id) ← s.disk.openFile (pathOf name)
        let seek := if o.flags.contains "oflag=seek_bytes" then o.seek else o.seek * o.outputBlock
        let old := (d.content id).bytes
        let start := if o.flags.contains "oflag=append" then old.length else seek
        let base := if o.conversions.contains "notrunc" then old
          else if o.flags.contains "oflag=append" then []
          else old.take seek
        let start := if o.flags.contains "oflag=append" then base.length else start
        if (d.content id).kind = .full && !bytes.isEmpty then .error .noSpace
        else .ok { s with disk := d.refill id (State.overwritten base start bytes) }

end Transfer

/-- Copies by blocks. -/
def dd (s : State) (args : List String) : State :=
  let s := s.finish 0
  let wrong (fault : Transfer.Fault) : State :=
    if fault.2 then misused s "dd" fault.1 1 else (s.complain ("dd: " ++ fault.1)).finish 1
  match (options "" []).parse args with
  | .error e => misused s "dd" e.message 1
  | .ok p =>
    match p.operands.foldlM Transfer.Order.add Transfer.Order.usual with
    | .error fault => wrong fault
    | .ok order =>
      match order.take s with
      | .error .isADirectory =>
        let name := quotedName (order.input.getD "standard input")
        (s.complain ("dd: error reading " ++ name ++ ": " ++ FileError.isADirectory.words)).finish 1
      | .error e => failedTo s "dd" "failed to open" (order.input.getD "standard input") e
      | .ok (s, bytes, left) =>
        let s := if order.input.isNone then s.leaveWaiting 0 left else s
        let converted := order.convert bytes
        match order.put s converted with
        | .error .noSpace =>
          (s.complain ("dd: error writing " ++ quotedName (order.output.getD "standard output") ++
            ": " ++ FileError.noSpace.words)).finish 1
        | .error e => failedTo s "dd" "failed to open" (order.output.getD "standard output") e
        | .ok s => (order.report bytes.length converted.length).foldl State.complain s

end Montage.Utility
