import Montage.Record.Run

/-!
The command that works through records by a program.
-/

namespace Montage.Utility

open Shell Record

namespace Records

/-- What is told about how the command is to be called. -/
def usage : String :=
  "Usage: mawk [Options] [Program] [file ...]\n\n" ++
  "Program:\n" ++
  "    The -f option value is the name of a file containing program text.\n" ++
  "    If no -f option is given, a \x22--\x22 ends option processing; the following\n" ++
  "    parameters are the program text.\n\n" ++
  "Options:\n" ++
  "    -f program-file  Program  text is read from file instead of from the\n" ++
  "                     command-line.  Multiple -f options are accepted.\n" ++
  "    -F value         sets the field separator, FS, to value.\n" ++
  "    -v var=value     assigns value to program variable var.\n" ++
  "    --               unambiguous end of options.\n\n" ++
  "    Implementation-specific options are prefixed with \x22-W\x22.  They can be\n" ++
  "    abbreviated:\n\n" ++
  "    -W version       show version information and exit.\n" ++
  "    -W dump          show assembler-like listing of program and exit.\n" ++
  "    -W help          show this message and exit.\n" ++
  "    -W interactive   set unbuffered output, line-buffered input.\n" ++
  "    -W exec file     use file as program as well as last option.\n" ++
  "    -W random=number set initial random seed.\n" ++
  "    -W sprintf=number adjust size of sprintf buffer.\n" ++
  "    -W posix_space   do not consider \x22\\n\x22 a space.\n" ++
  "    -W usage         show this message and exit.\n"

def version : String :=
  "mawk 1.3.4 20200120\n"

/-- What options and arguments ask for. -/
structure Request where
  separator : Option String
  assignments : List (String × List Char)
  files : List String
  /-- The program and the files, or the files alone. -/
  operands : List String

inductive Parsed
  | request (r : Request)
  /-- Only something is told. -/
  | told (text : String)
  | trouble (text : String)

/-- The options in front, up to the first argument that is none. -/
def parse (r : Request) : List String → Parsed
  | [] => .request r
  | arg :: rest =>
    match arg.toList with
    | ['-'] => .request { r with operands := arg :: rest }
    | ['-', '-'] => .request { r with operands := rest }
    | '-' :: letter :: joined =>
      let valued (use : String → Request → Except String Request) : Parsed :=
        match joined, rest with
        | [], [] => .trouble ("option -" ++ String.ofList [letter] ++ " lacks argument")
        | [], value :: rest =>
          match use value r with
          | .ok r => parse r rest
          | .error text => .trouble text
        | joined, rest =>
          match use (String.ofList joined) r with
          | .ok r => parse r rest
          | .error text => .trouble text
      match letter with
      | 'F' => valued fun value r => .ok { r with separator := some value }
      | 'f' => valued fun value r => .ok { r with files := r.files ++ [value] }
      | 'v' => valued fun value r =>
        match assigned? value.toList with
        | some (name, text) => .ok { r with assignments := r.assignments ++ [(name, text)] }
        | none => .error ("improper assignment: -v " ++ value)
      | 'W' =>
        let word := if joined.isEmpty then (rest.headD "").toList else joined
        if word.head? = some 'v' then .told version
        else if word.head? = some 'h' || word.head? = some 'u' then .told usage
        else valued fun _ r => .ok r
      | _ =>
        if arg = "--help" then .told usage
        else if arg = "--version" then .told version
        else .trouble ("not an option: " ++ arg)
    | _ => .request { r with operands := arg :: rest }

/-- The variables that every program has. -/
def usualVariables : List (String × Value) :=
  [("FS", .text [' ']), ("OFS", .text [' ']), ("ORS", .text ['\n']), ("RS", .text ['\n']),
    ("SUBSEP", .text ['\x1c']), ("CONVFMT", .text "%.6g".toList), ("OFMT", .text "%.6g".toList),
    ("NR", .ofNat 0), ("FNR", .ofNat 0), ("FILENAME", .text []), ("RSTART", .ofNat 0),
    ("RLENGTH", .ofInt (-1))]

/-- A table of texts that have been handed down. -/
def tableFrom (entries : List (List Char × String)) : Table :=
  entries.map fun (key, value) => (key, .entry value.toList)

/-- A job that has not begun. -/
def fresh (s : State) (operands : List String) : Job :=
  let arguments := ("awk" :: operands).zipIdx.map fun (arg, i) => (Decimal.digits i, arg)
  let handed := s.environment.map fun (name, value) => (name.toList, value)
  { shell := s
    globals := (usualVariables.map fun (name, v) => (name, .value v)) ++
      [("ARGC", .value (.ofNat arguments.length)), ("ARGV", .table 0), ("ENVIRON", .table 1)]
    locals := []
    tables := #[tableFrom arguments, tableFrom handed]
    record := []
    fields := []
    operand := 1
    input := none
    hasRead := false
    feeds := []
    outlets := [⟨outputName, .output, []⟩]
    ranges := []
    seed := .ofNat 0
    window := .ofSeed 0
    status := 0 }

/-- The program that files or the first operand hold, and the operands after it. -/
def sources (s : State) (r : Request) :
    Except State (State × List (Option String × List Char) × List String) :=
  if r.files.isEmpty then
    match r.operands with
    | text :: operands => .ok (s, [(none, text.toList)], operands)
    | [] => .ok (s, [], [])
  else do
    let (s, texts) ← r.files.foldlM (fun (s, texts) name =>
      match content s name with
      | .ok (s, bytes) => .ok (s, texts ++ [(some name, charsFrom bytes)])
      | .error e =>
        .error ((s.complain ("awk: cannot open \x22" ++ name ++ "\x22 (" ++ e.words ++ ")")).finish
          2)) (s, [])
    .ok (s, texts, r.operands)

/-- The program that some texts make together, or what is wrong with it. -/
def programOf (texts : List (Option String × List Char)) : Except String Record.Program := do
  let lead (name : Option String) : String := "awk: " ++ ((name.map (· ++ ": ")).getD "")
  let d ← texts.foldlM (fun (d : Record.Draft) (name, cs) =>
    match d.add cs with
    | .ok d => .ok d
    | .error c => .error (lead name ++ c.message)) .empty
  match d.undefined?, texts.getLast? with
  | some missing, some (name, cs) =>
    .error (lead name ++ Complaint.message ⟨lineCount cs + 2, .undefined missing⟩)
  | _, _ => .ok d.program

/-- What is done before the program: the separator and the variables. -/
def prepare (r : Request) : Act Unit := do
  match r.separator with
  | some text => do
    let cs := unescaped text.toList
    match Separator.ofText cs with
    | .ok _ => setNamed "FS" (.text cs)
    | .error fault =>
      fail (Complaint.message ⟨0, .pattern fault (String.ofList cs)⟩)
  | none => pure ()
  r.assignments.forM fun (name, text) => assignText name (unescaped text)

/-- Runs a program. -/
def run (start : Starter) (s : State) (r : Request) (program : Record.Program)
    (operands : List String) : State :=
  let work : Act Unit := do
    prepare r
    runProgram ⟨start, program⟩
  let (_, j) := (tryCatch work fun _ => pure ()).run.run (fresh s operands)
  let (_, j) := (closeAll start).run.run j
  j.shell.finish j.status

end Records

def awk (start : Starter) (s : State) (args : List String) : State :=
  match Records.parse ⟨none, [], [], []⟩ args with
  | .told text => (s.say text).finish 0
  | .trouble text => (s.complain ("awk: " ++ text)).finish 2
  | .request r =>
    match Records.sources s r with
    | .error s => s
    | .ok (s, [], _) => (s.say Records.usage).finish 0
    | .ok (s, texts, operands) =>
      match Records.programOf texts with
      | .error text => (s.complain text).finish 2
      | .ok program => Records.run start s r program operands

end Montage.Utility
